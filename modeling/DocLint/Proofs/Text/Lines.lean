import DocLint.Proofs.Text.Slice
import DocLint.Text.Line

/-!
# How a text is cut into lines

A text is cut at its terminators, read from left to right. What follows is by induction on the cut: a text
without terminators is its last line, and any other text is a line with its terminator and a text that is
cut into the other lines. There is one such cut, and it is the one that is computed.
-/

namespace DocLint

set_option autoImplicit false

/-- The terminators of a text from left to right. -/
def terminators : List Char → List Terminator
  | [] => []
  | '\r' :: '\n' :: rest => .crlf :: terminators rest
  | '\r' :: rest => .cr :: terminators rest
  | '\n' :: rest => .lf :: terminators rest
  | _ :: rest => terminators rest

/-- Characters without a terminator among them. -/
def IsPlain (chars : List Char) : Prop :=
  ∀ c ∈ chars, c ≠ '\r' ∧ c ≠ '\n'

/-- Whether a terminator is all that is to be read of it before some text. -/
def Terminator.IsWholeBefore (t : Terminator) (rest : List Char) : Prop :=
  t = .cr → rest.head? ≠ some '\n'

/-- How a text is cut into lines after `done` has been read. -/
inductive CutInto : List Char → List Char → List PhysicalLine → Prop where
  | last {done chars : List Char} : IsPlain chars →
    CutInto done chars [⟨Text.byteLength done, chars, none⟩]
  | line {done chars rest : List Char} {t : Terminator} {lines : List PhysicalLine} :
    IsPlain chars → t.IsWholeBefore rest → CutInto (done ++ (chars ++ t.chars)) rest lines →
    CutInto done (chars ++ (t.chars ++ rest)) (⟨Text.byteLength done, chars, some t⟩ :: lines)

section Plain

theorem isPlain_nil : IsPlain [] :=
  List.forall_mem_nil _

theorem IsPlain.not_mem {chars : List Char} (h : IsPlain chars) : '\r' ∉ chars ∧ '\n' ∉ chars :=
  ⟨fun hr => (h _ hr).1 rfl, fun hn => (h _ hn).2 rfl⟩

theorem byteLength_terminator (t : Terminator) : Text.byteLength t.chars = t.size := by
  cases t <;> rfl

theorem terminators_append_of_isPlain {chars : List Char} (h : IsPlain chars) (cs : List Char) :
    terminators (chars ++ cs) = terminators cs := by
  induction chars with
  | nil => rfl
  | cons c rest ih =>
    obtain ⟨⟨hcr, hlf⟩, hrest⟩ := List.forall_mem_cons.mp h
    rw [List.cons_append, terminators, ih hrest]
    · exact fun more hc _ => hcr hc
    · exact hcr
    · exact hlf

theorem terminators_chars_append {t : Terminator} {rest : List Char} (h : t.IsWholeBefore rest) :
    terminators (t.chars ++ rest) = t :: terminators rest := by
  cases t with
  | crlf => rfl
  | lf => rfl
  | cr =>
    refine terminators.eq_3 rest ?_
    rintro more rfl
    exact h rfl rfl

theorem linesFrom_append_of_isPlain {chars : List Char} (h : IsPlain chars) (start : Nat)
    (pending cs : List Char) :
    linesFrom start pending (chars ++ cs) = linesFrom start (chars.reverse ++ pending) cs := by
  induction chars generalizing pending with
  | nil => rfl
  | cons c rest ih =>
    obtain ⟨⟨hcr, hlf⟩, hrest⟩ := List.forall_mem_cons.mp h
    rw [List.cons_append, linesFrom, ih hrest]
    · simp
    · exact fun more hc _ => hcr hc
    · exact hcr
    · exact hlf

theorem linesFrom_chars_append {t : Terminator} {rest : List Char} (h : t.IsWholeBefore rest) (start : Nat)
    (pending : List Char) :
    linesFrom start pending (t.chars ++ rest) =
      ⟨start, pending.reverse, some t⟩ ::
        linesFrom (start + Text.byteLength pending + t.size) [] rest := by
  cases t with
  | crlf => rfl
  | lf => rfl
  | cr =>
    refine linesFrom.eq_3 start pending rest ?_
    rintro more rfl
    exact h rfl rfl

end Plain

section Cut
variable {done todo : List Char} {lines : List PhysicalLine}

theorem CutInto.line_of_pending {start : Nat} {pending rest : List Char} {t : Terminator}
    (hstart : start = Text.byteLength done) (hpending : IsPlain pending) (hwhole : t.IsWholeBefore rest)
    (hrest : ∀ {done}, start + Text.byteLength pending + t.size = Text.byteLength done →
      IsPlain [] → CutInto done ([].reverse ++ rest) lines) :
    CutInto done (pending.reverse ++ (t.chars ++ rest)) (⟨start, pending.reverse, some t⟩ :: lines) := by
  have hplain : IsPlain pending.reverse := fun c hc => hpending c (List.mem_reverse.mp hc)
  have hlength : start + Text.byteLength pending + t.size =
      Text.byteLength (done ++ (pending.reverse ++ t.chars)) := by
    rw [Text.byteLength_append, Text.byteLength_append, Text.byteLength_reverse, byteLength_terminator,
      hstart, Nat.add_assoc]
  have hcut := hrest hlength isPlain_nil
  rw [hstart]
  exact .line hplain hwhole hcut

/-- The lines of a text are a cut of it; `pending` is what has been read of the current line. -/
theorem cutInto_linesFrom {start : Nat} {pending cs : List Char} (hstart : start = Text.byteLength done)
    (hpending : IsPlain pending) : CutInto done (pending.reverse ++ cs) (linesFrom start pending cs) := by
  fun_induction linesFrom start pending cs generalizing done with
  | case1 start pending =>
    rw [List.append_nil, hstart]
    exact .last fun c hc => hpending c (List.mem_reverse.mp hc)
  | case2 start pending rest ih => exact .line_of_pending (t := .crlf) hstart hpending nofun ih
  | case3 start pending rest hnext ih =>
    refine .line_of_pending (t := .cr) hstart hpending ?_ ih
    intro _ hhead
    obtain ⟨more, hmore⟩ := List.head?_eq_some_iff.mp hhead
    exact hnext more hmore
  | case4 start pending rest ih => exact .line_of_pending (t := .lf) hstart hpending nofun ih
  | case5 start pending c rest _ hcr hlf ih =>
    have hplain : IsPlain (c :: pending) := List.forall_mem_cons.mpr ⟨⟨hcr, hlf⟩, hpending⟩
    simpa using ih hstart hplain

/-- There is no other cut. -/
theorem CutInto.eq_linesFrom (h : CutInto done todo lines) :
    lines = linesFrom (Text.byteLength done) [] todo := by
  induction h with
  | @last done chars hplain =>
    have hlast := linesFrom_append_of_isPlain hplain (Text.byteLength done) [] []
    rw [List.append_nil, List.append_nil] at hlast
    rw [hlast, linesFrom, List.reverse_reverse]
  | @line done chars rest t lines hplain hwhole _ ih =>
    rw [linesFrom_append_of_isPlain hplain, linesFrom_chars_append hwhole, List.append_nil,
      List.reverse_reverse, Text.byteLength_reverse, ih, Text.byteLength_append, Text.byteLength_append,
      byteLength_terminator, Nat.add_assoc]

theorem cutInto_iff : CutInto done todo lines ↔ lines = linesFrom (Text.byteLength done) [] todo := by
  refine ⟨CutInto.eq_linesFrom, ?_⟩
  rintro rfl
  exact cutInto_linesFrom rfl isPlain_nil

theorem physicalLines_empty : physicalLines "" = [] := rfl

theorem cutInto_physicalLines {source : String} (h : source ≠ "") :
    CutInto [] source.toList (physicalLines source) := by
  have hne : source.toList ≠ [] := mt String.toList_eq_nil_iff.mp h
  have hcut : CutInto [] source.toList (linesFrom 0 [] source.toList) := cutInto_iff.mpr rfl
  unfold physicalLines
  split
  · next hnil => exact absurd hnil hne
  · exact hcut

end Cut

namespace CutInto
variable {done todo : List Char} {lines : List PhysicalLine} {l a b : PhysicalLine}

theorem exists_cons (h : CutInto done todo lines) :
    ∃ first rest, lines = first :: rest ∧ first.start = Text.byteLength done := by
  cases h with
  | last _ => exact ⟨_, _, rfl, rfl⟩
  | line _ _ _ => exact ⟨_, _, rfl, rfl⟩

theorem map_terminator (h : CutInto done todo lines) :
    lines.map PhysicalLine.terminator = (terminators todo).map some ++ [none] := by
  induction h with
  | last hplain =>
    have hnone := terminators_append_of_isPlain hplain []
    rw [List.append_nil] at hnone
    rw [hnone]
    rfl
  | line hplain hwhole _ ih =>
    rw [terminators_append_of_isPlain hplain, terminators_chars_append hwhole, List.map_cons, ih]
    rfl

theorem isPlain_of_mem (h : CutInto done todo lines) (hl : l ∈ lines) : IsPlain l.chars := by
  induction h with
  | last hplain =>
    rw [List.mem_singleton] at hl
    rwa [hl]
  | line hplain _ _ ih =>
    rcases List.mem_cons.mp hl with rfl | hl
    · exact hplain
    · exact ih hl

/-- Every line stands in the text where it starts. -/
theorem split_of_mem (h : CutInto done todo lines) (hl : l ∈ lines) :
    ∃ before after, done ++ todo = before ++ l.chars ++ after ∧ l.start = Text.byteLength before := by
  induction h with
  | @last done chars _ =>
    rw [List.mem_singleton] at hl
    subst hl
    exact ⟨done, [], (List.append_nil _).symm, rfl⟩
  | @line done chars rest t lines _ _ _ ih =>
    rcases List.mem_cons.mp hl with rfl | hl
    · exact ⟨done, t.chars ++ rest, by simp, rfl⟩
    · obtain ⟨before, after, heq, hstart⟩ := ih hl
      exact ⟨before, after, by simpa using heq, hstart⟩

theorem flatMap_chars (h : CutInto done todo lines) :
    (lines.flatMap fun l => l.chars ++ (l.terminator.map Terminator.chars).getD []) = todo := by
  induction h with
  | last _ => simp
  | line _ _ _ ih =>
    rw [List.flatMap_cons, ih]
    simp

theorem stop_of_getLast? (h : CutInto done todo lines) (hl : lines.getLast? = some l) :
    l.stop = Text.byteLength (done ++ todo) := by
  induction h with
  | last _ =>
    rw [List.getLast?_singleton, Option.some.injEq] at hl
    rw [← hl, PhysicalLine.stop, Text.byteLength_append]
  | line _ _ hrest ih =>
    obtain ⟨first, more, rfl, -⟩ := hrest.exists_cons
    rw [List.getLast?_cons_cons] at hl
    simpa using ih hl

/-- A pair in a list stands at its begin or after its first value. -/
theorem pair_infix_cons {α : Type} {x y a : α} {xs : List α} :
    [x, y] <:+: a :: xs ↔ (x = a ∧ ∃ rest, xs = y :: rest) ∨ [x, y] <:+: xs := by
  rw [List.infix_cons_iff, List.cons_prefix_cons, List.cons_prefix_iff]
  simp

/-- Between a line and the next one stands the terminator of the line. -/
theorem split_of_pair (h : CutInto done todo lines) (hpair : [a, b] <:+: lines) :
    ∃ t before after, a.terminator = some t ∧ done ++ todo = before ++ t.chars ++ after ∧
      a.stop = Text.byteLength before ∧ b.start = Text.byteLength (before ++ t.chars) := by
  induction h with
  | last _ =>
    have hlength := hpair.length_le
    simp at hlength
  | @line done chars rest t lines _ _ hrest ih =>
    rcases pair_infix_cons.mp hpair with ⟨rfl, more, hmore⟩ | hpair
    · obtain ⟨first, others, hlines, hstart⟩ := hrest.exists_cons
      obtain ⟨rfl, -⟩ := List.cons.inj (hmore.symm.trans hlines)
      refine ⟨t, done ++ chars, rest, rfl, by simp, ?_, ?_⟩
      · rw [PhysicalLine.stop, Text.byteLength_append]
      · rw [hstart, List.append_assoc]
    · obtain ⟨t', before, after, hterminator, heq, hstop, hstart⟩ := ih hpair
      exact ⟨t', before, after, hterminator, by simpa using heq, hstop, hstart⟩

/-- What begins with a line ending begins after plain characters. -/
theorem split_after_plain {chars xs before ys : List Char} {c : Char} (hchars : IsPlain chars)
    (hc : c = '\r' ∨ c = '\n') (h : chars ++ xs = before ++ c :: ys) :
    ∃ more, before = chars ++ more ∧ xs = more ++ c :: ys := by
  rcases List.append_eq_append_iff.mp h with ⟨more, hbefore, hxs⟩ | ⟨more, hplain, hys⟩
  · exact ⟨more, hbefore, hxs⟩
  · cases more with
    | nil => exact ⟨[], by simpa using hplain.symm, hys.symm⟩
    | cons d more =>
      obtain ⟨rfl, -⟩ := List.cons.inj hys
      have hmem : c ∈ chars := by simp [hplain]
      rcases hc with hc | hc
      · exact absurd hc (hchars c hmem).1
      · exact absurd hc (hchars c hmem).2

/-- The characters `\r\n` are a terminator, or stand after it. -/
theorem crlf_after_terminator {t : Terminator} {rest before after : List Char} (hwhole : t.IsWholeBefore rest)
    (h : t.chars ++ rest = before ++ '\r' :: '\n' :: after) :
    t = .crlf ∧ before = [] ∨
      ∃ more, before = t.chars ++ more ∧ rest = more ++ '\r' :: '\n' :: after := by
  cases before with
  | nil =>
    cases t with
    | crlf => exact .inl ⟨rfl, rfl⟩
    | cr =>
      obtain rfl : rest = '\n' :: after := by simpa [Terminator.chars] using h
      exact absurd rfl (hwhole rfl)
    | lf => simp [Terminator.chars] at h
  | cons c before =>
    right
    cases t with
    | cr =>
      obtain ⟨rfl, hrest⟩ := List.cons.inj h
      exact ⟨before, rfl, hrest⟩
    | lf =>
      obtain ⟨rfl, hrest⟩ := List.cons.inj h
      exact ⟨before, rfl, hrest⟩
    | crlf =>
      obtain ⟨rfl, htail⟩ := List.cons.inj h
      cases before with
      | nil => simp at htail
      | cons d before =>
        obtain ⟨rfl, hrest⟩ := List.cons.inj htail
        exact ⟨before, rfl, hrest⟩

/-- Where the two characters of `\r\n` stand together, one line ends before and the next one starts behind
them. -/
theorem pair_of_crlf (h : CutInto done todo lines) {before after : List Char}
    (hcrlf : todo = before ++ '\r' :: '\n' :: after) :
    ∃ a b, [a, b] <:+: lines ∧ a.stop = Text.byteLength (done ++ before) ∧ b.start = a.stop + 2 := by
  induction h generalizing before with
  | @last done chars hplain =>
    have hmem : '\r' ∈ chars := by simp [hcrlf]
    exact absurd rfl (hplain _ hmem).1
  | @line done chars rest t lines hplain hwhole hrest ih =>
    obtain ⟨more, rfl, hmore⟩ := split_after_plain hplain (.inl rfl) hcrlf
    rcases crlf_after_terminator hwhole hmore with ⟨rfl, rfl⟩ | ⟨between, rfl, hbetween⟩
    · obtain ⟨first, others, rfl, hstart⟩ := hrest.exists_cons
      refine ⟨_, first, pair_infix_cons.mpr (.inl ⟨rfl, others, rfl⟩), ?_, ?_⟩
      · rw [PhysicalLine.stop, List.append_nil, Text.byteLength_append]
      · rw [hstart, ← List.append_assoc, Text.byteLength_append, PhysicalLine.stop,
          Text.byteLength_append, byteLength_terminator]
        rfl
    · obtain ⟨a, b, hpair, hstop, hstart⟩ := ih hbetween
      refine ⟨a, b, pair_infix_cons.mpr (.inr hpair), ?_, hstart⟩
      simpa using hstop

end CutInto

section Join
variable {done p c q : List Char} {before lines : List PhysicalLine}

/-- Where a line starts and what it says. -/
def PhysicalLine.place (l : PhysicalLine) : Nat × List Char :=
  (l.start, l.chars)

/-- A line that is seen from further before. -/
def PhysicalLine.shift (n : Nat) (l : PhysicalLine) : PhysicalLine :=
  { l with start := n + l.start }

/-- A text is cut in the same way wherever it stands. -/
theorem CutInto.shift (h : CutInto done c lines) (p : List Char) :
    CutInto (p ++ done) c (lines.map (PhysicalLine.shift (Text.byteLength p))) := by
  induction h with
  | last hplain =>
    rw [List.map_singleton, PhysicalLine.shift, ← Text.byteLength_append]
    exact .last hplain
  | line hplain hwhole _ ih =>
    rw [List.map_cons, PhysicalLine.shift, ← Text.byteLength_append]
    rw [← List.append_assoc] at ih
    exact .line hplain hwhole ih

end Join

end DocLint
