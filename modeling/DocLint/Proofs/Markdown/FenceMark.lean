import DocLint.Proofs.Text.Slice
import DocLint.Token.OfTree

/-!
# Texts that open with a fence

Whether a text opens with a fence, apart from white space, is decided before its first line ending. So the
source of a block of code and the value of this block agree in it.
-/

namespace DocLint.Markdown

set_option autoImplicit false

/-- Whether a text opens with three backticks or tildes, apart from white space. -/
def beginsWithFence (cs : List Char) : Bool :=
  let rest := cs.dropWhile fun c => c == ' ' || c == '\t'
  ['`', '`', '`'].isPrefixOf rest || ['~', '~', '~'].isPrefixOf rest

/-- Whether a character ends a line. -/
def IsEolChar (c : Char) : Prop :=
  c = '\r' ∨ c = '\n'

/-- Whether a text is empty or opens with a line ending. -/
def BeginsWithEol (cs : List Char) : Prop :=
  ∀ c ∈ cs.head?, IsEolChar c

@[simp] theorem beginsWithEol_nil : BeginsWithEol [] := by
  simp [BeginsWithEol]

@[simp] theorem beginsWithEol_cons {c : Char} {rest : List Char} :
    BeginsWithEol (c :: rest) ↔ IsEolChar c := by
  simp [BeginsWithEol]

theorem BeginsWithEol.of_isPrefix {a b : List Char} (h : BeginsWithEol b) (hfront : a <+: b) :
    BeginsWithEol a := by
  obtain ⟨rest, rfl⟩ := hfront
  cases a with
  | nil => exact beginsWithEol_nil
  | cons c more => exact beginsWithEol_cons.mpr (beginsWithEol_cons.mp h)

theorem BeginsWithEol.append {a b : List Char} (ha : BeginsWithEol a) (hb : a = [] → BeginsWithEol b) :
    BeginsWithEol (a ++ b) := by
  cases a with
  | nil => exact hb rfl
  | cons c more => exact beginsWithEol_cons.mpr (beginsWithEol_cons.mp ha)

/-- The token of a node opens with a fence if the source between the ends of the node does. -/
theorem opensWithFence_eq {source : String} {before middle after : List Char} {span : Span}
    (h : source.toList = before ++ middle ++ after) (hstart : span.start = Text.byteLength before)
    (hstop : span.stop = Text.byteLength (before ++ middle)) :
    opensWithFence source span = beginsWithFence middle := by
  rw [opensWithFence, Span.slice?, hstart, hstop, Text.slice?_of_split h]
  simp [beginsWithFence]

theorem isPrefixOf_append_eol {marks u z : List Char} (hmarks : ∀ c ∈ marks, ¬ IsEolChar c)
    (hz : BeginsWithEol z) : marks.isPrefixOf (u ++ z) = marks.isPrefixOf u := by
  induction marks generalizing u with
  | nil => simp
  | cons m rest ih =>
    have hrest : ∀ c ∈ rest, ¬ IsEolChar c := fun c hc => hmarks c (List.mem_cons_of_mem m hc)
    cases u with
    | cons c more => simp [List.isPrefixOf_cons_cons, ih hrest]
    | nil =>
      cases z with
      | nil => rfl
      | cons c more =>
        have hne : m ≠ c := by
          rintro rfl
          exact hmarks m List.mem_cons_self (beginsWithEol_cons.mp hz)
        simp [List.isPrefixOf_cons_cons, hne]

/-- What follows a line ending does not matter. -/
theorem beginsWithFence_append {u z : List Char} (hz : BeginsWithEol z) :
    beginsWithFence (u ++ z) = beginsWithFence u := by
  have hdrop : (z.dropWhile fun c => c == ' ' || c == '\t') = z := by
    cases z with
    | nil => rfl
    | cons c rest =>
      rcases beginsWithEol_cons.mp hz with rfl | rfl <;> rfl
  have htick : ∀ c ∈ ['`', '`', '`'], ¬ IsEolChar c := by simp [IsEolChar]
  have htilde : ∀ c ∈ ['~', '~', '~'], ¬ IsEolChar c := by simp [IsEolChar]
  unfold beginsWithFence
  simp only [List.dropWhile_append]
  split
  · next hempty =>
    have hu : (u.dropWhile fun c => c == ' ' || c == '\t') = [] := List.isEmpty_iff.mp hempty
    have hticks := isPrefixOf_append_eol (u := []) htick hz
    have htildes := isPrefixOf_append_eol (u := []) htilde hz
    rw [List.nil_append] at hticks htildes
    rw [hdrop, hu, hticks, htildes]
  · rw [isPrefixOf_append_eol htick hz, isPrefixOf_append_eol htilde hz]

/-- White space in front does not matter. -/
theorem beginsWithFence_of_blank {b u : List Char} (hb : ∀ c ∈ b, c = ' ' ∨ c = '\t') :
    beginsWithFence (b ++ u) = beginsWithFence u := by
  have hdrop : ((b ++ u).dropWhile fun c => c == ' ' || c == '\t') =
      u.dropWhile fun c => c == ' ' || c == '\t' := by
    apply List.dropWhile_append_of_pos
    simpa using hb
  rw [beginsWithFence, hdrop]
  rfl

theorem beginsWithFence_marks {m : Char} (hm : m = '`' ∨ m = '~') (rest : List Char) :
    beginsWithFence (m :: m :: m :: rest) = true := by
  rcases hm with rfl | rfl <;> simp [beginsWithFence]

section Value

theorem trimEolStart_of_not_eol {c : Char} (hc : ¬ IsEolChar c) (rest : List Char) :
    trimEolStart (c :: rest) = c :: rest := by
  unfold trimEolStart
  split
  · next heq => exact absurd (.inl (List.cons.inj heq).1) hc
  · next heq => exact absurd (.inl (List.cons.inj heq).1) hc
  · next heq => exact absurd (.inr (List.cons.inj heq).1) hc
  · rfl

theorem trimEolEnd_append (cs : List Char) : ∃ z, BeginsWithEol z ∧ cs = trimEolEnd cs ++ z := by
  unfold trimEolEnd
  split
  · next rest h => exact ⟨['\r', '\n'], by simp [IsEolChar], by simpa using congrArg List.reverse h⟩
  · next rest _ h => exact ⟨['\n'], by simp [IsEolChar], by simpa using congrArg List.reverse h⟩
  · next rest h => exact ⟨['\r'], by simp [IsEolChar], by simpa using congrArg List.reverse h⟩
  · exact ⟨[], beginsWithEol_nil, (List.append_nil cs).symm⟩

/-- The value of code opens with a fence if its first line does. -/
theorem beginsWithFence_codeValue {cells : List Cell} {u z : List Char} (h : textOf cells = u ++ z)
    (hu : ∀ c ∈ u, ¬ IsEolChar c) (hne : u ≠ []) (hz : BeginsWithEol z) :
    beginsWithFence (codeValue cells).toList = beginsWithFence u := by
  have hstart : trimEolStart (u ++ z) = u ++ z := by
    cases u with
    | nil => exact absurd rfl hne
    | cons c rest => exact trimEolStart_of_not_eol (hu c List.mem_cons_self) _
  obtain ⟨e, he, hend⟩ := trimEolEnd_append (u ++ z)
  rw [codeValue, String.toList_ofList, h, hstart, ← beginsWithFence_append he, ← hend,
    beginsWithFence_append hz]

end Value

end DocLint.Markdown
