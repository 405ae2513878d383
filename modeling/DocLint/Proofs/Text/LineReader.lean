import DocLint.Proofs.Text.Lines
import DocLint.Text.LineReader

/-!
# Lines without loss

The lines of a text and their terminators make up the text, piece by piece. A reader that goes through a text
stands between two lines whenever it is asked for the next one, so it never cuts a character in two. It gives
the lines of the text in order, and then nothing more.
-/

namespace DocLint

set_option autoImplicit false

/-- What lines are that a text is cut into without loss. -/
structure Segments (source : String) (lines : List PhysicalLine) : Prop where
  empty : source = "" → lines = []
  count : source ≠ "" → lines.length = (terminators source.toList).length + 1
  terminator : source ≠ "" →
    lines.map PhysicalLine.terminator = (terminators source.toList).map some ++ [none]
  plain : ∀ l ∈ lines, '\r' ∉ l.chars ∧ '\n' ∉ l.chars
  first : ∀ l, lines.head? = some l → l.start = 0
  text : ∀ l ∈ lines, Text.slice? source l.start l.stop = some l.text
  /-- Between two lines there is one terminator, that of the first one. -/
  between : ∀ a b, [a, b] <:+: lines → ∃ t, a.terminator = some t ∧ b.start = a.stop + t.size ∧
    Text.slice? source a.stop b.start = some (String.ofList t.chars)
  /-- No line starts between `\r` and `\n`. -/
  unsplit : ∀ before after, source.toList = before ++ '\r' :: '\n' :: after →
    ∃ a b, [a, b] <:+: lines ∧ a.stop = Text.byteLength before ∧ b.start = a.stop + 2
  last : ∀ l, lines.getLast? = some l → l.stop = Text.byteLength source.toList
  whole : (lines.flatMap fun l => l.chars ++ (l.terminator.map Terminator.chars).getD []) = source.toList

theorem segments_of_cutInto {source : String} {lines : List PhysicalLine} (h : source ≠ "")
    (hcut : CutInto [] source.toList lines) : Segments source lines := by
  refine ⟨fun hempty => absurd hempty h, fun _ => ?_, fun _ => hcut.map_terminator, ?_, ?_, ?_, ?_, ?_, ?_,
    hcut.flatMap_chars⟩
  · have hlength := congrArg List.length hcut.map_terminator
    simpa using hlength
  · exact fun l hl => (hcut.isPlain_of_mem hl).not_mem
  · intro l hl
    obtain ⟨first, rest, rfl, hstart⟩ := hcut.exists_cons
    obtain rfl := Option.some.inj hl
    exact hstart
  · intro l hl
    obtain ⟨before, after, hsplit, hstart⟩ := hcut.split_of_mem hl
    have hslice := Text.slice?_of_split hsplit
    rwa [Text.byteLength_append, ← hstart] at hslice
  · intro a b hpair
    obtain ⟨t, before, after, hterminator, hsplit, hstop, hstart⟩ := hcut.split_of_pair hpair
    refine ⟨t, hterminator, ?_, ?_⟩
    · rw [hstart, hstop, Text.byteLength_append, byteLength_terminator]
    · rw [hstart, hstop]
      exact Text.slice?_of_split hsplit
  · exact fun before after hcrlf => hcut.pair_of_crlf hcrlf
  · exact fun l hl => hcut.stop_of_getLast? hl

theorem segments_physicalLines (source : String) : Segments source (physicalLines source) := by
  by_cases h : source = ""
  · subst h
    refine ⟨fun _ => rfl, fun h => absurd rfl h, fun h => absurd rfl h, nofun, nofun, nofun, ?_, ?_, nofun, rfl⟩
    · intro a b hpair
      have hlength := hpair.length_le
      simp [physicalLines_empty] at hlength
    · intro before after hsplit
      simp at hsplit
  · exact segments_of_cutInto h (cutInto_physicalLines h)

namespace LineReader

/-- A reader of a text of which `done` has been read, up to the begin of a line. -/
def StandsAfter (r : LineReader) (done todo : List Char) : Prop :=
  r.source.toList = done ++ todo ∧ r.offset = Text.byteLength done ∧ r.done = false

section Find

theorem findOffset?_of_isPlain {chars : List Char} (h : IsPlain chars) :
    Text.findOffset? endsLine chars = none := by
  induction chars with
  | nil => rfl
  | cons c rest ih =>
    obtain ⟨⟨hcr, hlf⟩, hrest⟩ := List.forall_mem_cons.mp h
    have hc : endsLine c = false := by simp [endsLine, hcr, hlf]
    rw [Text.findOffset?, if_neg (by simp [hc]), ih hrest, Option.map_none]

theorem findOffset?_terminator {chars : List Char} (h : IsPlain chars) (t : Terminator) (rest : List Char) :
    Text.findOffset? endsLine (chars ++ (t.chars ++ rest)) = some (Text.byteLength chars) := by
  induction chars with
  | nil => cases t <;> rfl
  | cons c more ih =>
    obtain ⟨⟨hcr, hlf⟩, hmore⟩ := List.forall_mem_cons.mp h
    have hc : endsLine c = false := by simp [endsLine, hcr, hlf]
    rw [List.cons_append, Text.findOffset?, if_neg (by simp [hc]), ih hmore, Option.map_some,
      Text.byteLength_cons]

theorem terminatorOf_chars_append {t : Terminator} {rest : List Char} (h : t.IsWholeBefore rest) :
    terminatorOf (t.chars ++ rest) = t := by
  cases t with
  | crlf => rfl
  | lf => rfl
  | cr =>
    refine terminatorOf.eq_2 rest ?_
    rintro more rfl
    exact h rfl rfl

end Find

section Next
variable {r : LineReader} {done todo chars rest : List Char} {lines : List PhysicalLine}

theorem next_of_done (h : r.done = true) : r.next = some (none, r) := by
  rw [next, if_pos h]

theorem dropBytes_of_standsAfter (h : r.StandsAfter done todo) :
    Text.dropBytes r.offset r.source.toList = some todo := by
  rw [h.1, h.2.1, Text.dropBytes_append]

theorem next_of_isPlain (h : r.StandsAfter done chars) (hplain : IsPlain chars) :
    r.next = some (some ⟨Text.byteLength done, chars, none⟩, { r with done := true }) := by
  rw [next, if_neg (by simp [h.2.2]), dropBytes_of_standsAfter h]
  simp [findOffset?_of_isPlain hplain, h.2.1]

theorem next_of_terminator {t : Terminator} (h : r.StandsAfter done (chars ++ (t.chars ++ rest)))
    (hplain : IsPlain chars) (hwhole : t.IsWholeBefore rest) :
    ∃ r' : LineReader, r.next = some (some ⟨Text.byteLength done, chars, some t⟩, r') ∧
      r'.StandsAfter (done ++ (chars ++ t.chars)) rest := by
  refine ⟨{ r with offset := r.offset + Text.byteLength chars + t.size }, ?_, ?_, ?_, h.2.2⟩
  · rw [next, if_neg (by simp [h.2.2]), dropBytes_of_standsAfter h]
    simp [findOffset?_terminator hplain, Text.takeBytes_append, Text.dropBytes_append,
      terminatorOf_chars_append hwhole, h.2.1]
  · simpa using h.1
  · rw [Text.byteLength_append, Text.byteLength_append, byteLength_terminator, ← h.2.1, Nat.add_assoc]

theorem read_of_done (h : r.done = true) (n : Nat) : r.read n = some (List.replicate n none) := by
  induction n with
  | zero => rfl
  | succ n ih =>
    rw [read, next_of_done h]
    simp [ih, List.replicate_succ]

/-- From where a reader stands it reads the lines that the rest of the text is cut into. -/
theorem read_of_cutInto (hcut : CutInto done todo lines) (h : r.StandsAfter done todo) (n : Nat) :
    r.read n = some ((List.range n).map fun k => lines[k]?) := by
  induction hcut generalizing r n with
  | last hplain =>
    cases n with
    | zero => rfl
    | succ n =>
      rw [read, next_of_isPlain h hplain, List.range_succ_eq_map]
      simp [read_of_done, Function.comp_def, List.map_const']
  | line hplain hwhole _ ih =>
    cases n with
    | zero => rfl
    | succ n =>
      obtain ⟨r', hnext, hstands⟩ := next_of_terminator h hplain hwhole
      rw [read, hnext, List.range_succ_eq_map]
      simp [ih hstands]

end Next

/-- The lines of a text are a cut of it without loss. A reader of the text gives them in order, one at a time,
and nothing more however often it is asked again; it never cuts a character in two. -/
theorem lines_without_loss (source : String) :
    Segments source (physicalLines source) ∧
      ∀ n, (ofText source).read n = some ((List.range n).map fun k => (physicalLines source)[k]?) := by
  refine ⟨segments_physicalLines source, ?_⟩
  intro n
  by_cases h : source = ""
  · subst h
    rw [read_of_done rfl, physicalLines_empty]
    simp [List.map_const']
  · have hstands : (ofText source).StandsAfter [] source.toList := ⟨rfl, rfl, by simpa [ofText] using h⟩
    exact read_of_cutInto (cutInto_physicalLines h) hstands n

end LineReader

end DocLint
