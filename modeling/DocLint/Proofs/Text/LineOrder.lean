import DocLint.Proofs.Text.Lines

/-!
# The order of lines

Every line ends before the next one starts. The text from the start of one line to the end of a later one
begins with the first line and ends with the last one.
-/

namespace DocLint

set_option autoImplicit false

section Order
variable {done todo : List Char} {lines : List PhysicalLine} {l : PhysicalLine} {k : Nat}

theorem size_pos (t : Terminator) : 0 < t.size := by
  cases t <;> decide

/-- Every line before a line takes a byte at least, that of its terminator. -/
theorem CutInto.add_le_start (h : CutInto done todo lines) (hl : lines[k]? = some l) :
    Text.byteLength done + k ≤ l.start := by
  induction h generalizing k with
  | last _ =>
    obtain ⟨rfl, rfl⟩ : k = 0 ∧ _ = l := by simpa [List.getElem?_singleton] using hl
    exact Nat.le_refl _
  | @line done chars rest t lines _ _ _ ih =>
    cases k with
    | zero =>
      obtain rfl := Option.some.inj hl
      exact Nat.le_refl _
    | succ k =>
      have hstart := ih hl
      have hpos := size_pos t
      rw [Text.byteLength_append, Text.byteLength_append, byteLength_terminator] at hstart
      omega

theorem CutInto.stop_lt_start (h : CutInto done todo lines) :
    lines.Pairwise fun a b => a.stop < b.start := by
  induction h with
  | last _ => exact List.pairwise_singleton _ _
  | @line done chars rest t lines _ _ hrest ih =>
    refine List.pairwise_cons.mpr ⟨?_, ih⟩
    intro b hb
    obtain ⟨k, hk⟩ := List.getElem?_of_mem hb
    have hstart := hrest.add_le_start hk
    have hpos := size_pos t
    rw [Text.byteLength_append, Text.byteLength_append, byteLength_terminator] at hstart
    have hstop : (⟨Text.byteLength done, chars, some t⟩ : PhysicalLine).stop =
        Text.byteLength done + Text.byteLength chars := rfl
    omega

end Order

section Source
variable {source : String} {i j : Nat} {a b : PhysicalLine}

theorem cutInto_of_line (h : (physicalLines source)[i]? = some a) :
    CutInto [] source.toList (physicalLines source) := by
  by_cases hne : source = ""
  · subst hne
    cases h
  · exact cutInto_physicalLines hne

theorem index_le_start (h : (physicalLines source)[i]? = some a) : i ≤ a.start := by
  simpa using (cutInto_of_line h).add_le_start h

theorem stop_lt_start (ha : (physicalLines source)[i]? = some a) (hb : (physicalLines source)[j]? = some b)
    (h : i < j) : a.stop < b.start := by
  have hsorted := (cutInto_of_line ha).stop_lt_start
  obtain ⟨hi, rfl⟩ := List.getElem?_eq_some_iff.mp ha
  obtain ⟨hj, rfl⟩ := List.getElem?_eq_some_iff.mp hb
  exact List.pairwise_iff_getElem.mp hsorted i j hi hj h

theorem PhysicalLine.start_le_stop (l : PhysicalLine) : l.start ≤ l.stop := by
  rw [PhysicalLine.stop]
  omega

theorem start_le_start (ha : (physicalLines source)[i]? = some a) (hb : (physicalLines source)[j]? = some b)
    (h : i ≤ j) : a.start ≤ b.start ∧ a.stop ≤ b.stop := by
  rcases Nat.eq_or_lt_of_le h with rfl | hlt
  · rw [ha] at hb
    cases hb
    exact ⟨Nat.le_refl _, Nat.le_refl _⟩
  · have hab := stop_lt_start ha hb hlt
    have hale := a.start_le_stop
    have hble := b.start_le_stop
    omega

theorem isPlain_of_line (h : (physicalLines source)[i]? = some a) : IsPlain a.chars :=
  (cutInto_of_line h).isPlain_of_mem (List.mem_of_getElem? h)

theorem split_of_line (h : (physicalLines source)[i]? = some a) :
    ∃ before after, source.toList = before ++ a.chars ++ after ∧ a.start = Text.byteLength before :=
  (cutInto_of_line h).split_of_mem (List.mem_of_getElem? h)

theorem stop_le_byteLength (h : (physicalLines source)[i]? = some a) :
    a.stop ≤ Text.byteLength source.toList := by
  obtain ⟨before, after, heq, hstart⟩ := split_of_line h
  rw [heq, Text.byteLength_append, Text.byteLength_append, ← hstart, PhysicalLine.stop]
  omega

/-- The text from a line to a later one, both included, without the terminator of the last one. -/
theorem slice?_of_lines (ha : (physicalLines source)[i]? = some a) (hb : (physicalLines source)[j]? = some b)
    (h : i ≤ j) : ∃ cs, Text.slice? source a.start b.stop = some (String.ofList cs) ∧
      a.chars <+: cs ∧ b.chars <:+ cs := by
  obtain ⟨hstart, hstop⟩ := start_le_start ha hb h
  obtain ⟨before, after, heq, hbefore⟩ := split_of_line ha
  obtain ⟨before', after', heq', hbefore'⟩ := split_of_line hb
  have hprefix : before <+: source.toList := ⟨a.chars ++ after, by rw [heq, List.append_assoc]⟩
  have hprefix' : before' <+: source.toList := ⟨b.chars ++ after', by rw [heq', List.append_assoc]⟩
  obtain ⟨between, rfl⟩ := Text.isPrefix_of_byteLength_le hprefix hprefix' (by omega)
  have hstops : Text.byteLength (before ++ a.chars) ≤ Text.byteLength (before ++ between ++ b.chars) := by
    rw [Text.byteLength_append, Text.byteLength_append, ← hbefore, ← hbefore']
    exact hstop
  obtain ⟨more, hmore⟩ := Text.isPrefix_of_byteLength_le ⟨after, heq.symm⟩ ⟨after', heq'.symm⟩ hstops
  refine ⟨between ++ b.chars, ?_, ⟨more, ?_⟩, List.suffix_append _ _⟩
  · have hsplit : source.toList = before ++ (between ++ b.chars) ++ after' := by
      rw [heq']
      simp
    have hslice := Text.slice?_of_split hsplit
    rwa [← hbefore, ← List.append_assoc, Text.byteLength_append, ← hbefore'] at hslice
  · rw [List.append_assoc, List.append_assoc] at hmore
    exact List.append_cancel_left hmore

end Source

end DocLint
