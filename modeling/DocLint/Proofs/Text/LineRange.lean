import DocLint.Proofs.Text.LineOrder

/-!
# Texts of several lines

The text from one line to a later one is itself cut into these lines: it begins behind a terminator and ends
before one, so no terminator of it goes further outside.
-/

namespace DocLint

set_option autoImplicit false

section Cut
variable {done todo : List Char} {lines lines' : List PhysicalLine} {first last : PhysicalLine} {i j : Nat}

/-- What is to be read from the start of a line on is cut into the lines from there on. -/
theorem CutInto.drop (h : CutInto done todo lines) (hi : lines[i]? = some first) :
    ∃ before after, todo = before ++ after ∧ first.start = Text.byteLength (done ++ before) ∧
      CutInto (done ++ before) after (lines.drop i) := by
  induction i generalizing done todo lines with
  | zero =>
    obtain ⟨l, rest, rfl, hstart⟩ := h.exists_cons
    cases hi
    refine ⟨[], todo, rfl, ?_, ?_⟩
    · rw [List.append_nil, hstart]
    · rwa [List.append_nil, List.drop_zero]
  | succ i ih =>
    cases h with
    | last _ => cases hi
    | @line _ chars rest t lines _ _ hrest =>
      obtain ⟨before, after, rfl, hstart, hcut⟩ := ih hrest hi
      refine ⟨chars ++ (t.chars ++ before), after, ?_, ?_, ?_⟩
      · simp only [List.append_assoc]
      · rw [hstart]
        simp only [List.append_assoc]
      · rw [List.drop_succ_cons]
        simpa only [List.append_assoc] using hcut

/-- What is to be read up to the end of a line is cut into the lines up to this one, which nothing ends there. -/
theorem CutInto.take (h : CutInto done todo lines) (hj : lines[j]? = some last) :
    ∃ middle after, todo = middle ++ after ∧ last.stop = Text.byteLength (done ++ middle) ∧
      CutInto done middle (lines.take j ++ [{ last with terminator := none }]) := by
  induction j generalizing done todo lines with
  | zero =>
    cases h with
    | last hplain =>
      cases hj
      refine ⟨todo, [], (List.append_nil _).symm, ?_, .last hplain⟩
      rw [Text.byteLength_append]
      rfl
    | @line _ chars rest t lines hplain _ _ =>
      cases hj
      refine ⟨chars, t.chars ++ rest, rfl, ?_, .last hplain⟩
      rw [Text.byteLength_append]
      rfl
  | succ j ih =>
    cases h with
    | last _ => cases hj
    | @line _ chars rest t lines hplain hwhole hrest =>
      obtain ⟨middle, after, rfl, hstop, hcut⟩ := ih hrest hj
      have hwhole' : t.IsWholeBefore middle := by
        intro ht hhead
        obtain ⟨more, rfl⟩ := List.head?_eq_some_iff.mp hhead
        exact hwhole ht rfl
      refine ⟨chars ++ (t.chars ++ middle), after, ?_, ?_, .line hplain hwhole' hcut⟩
      · simp only [List.append_assoc]
      · rw [hstop]
        simp only [List.append_assoc]

/-- The texts of the lines do not depend on where the text stands. -/
theorem CutInto.map_text_eq {done' : List Char} (h : CutInto done todo lines) (h' : CutInto done' todo lines') :
    lines.map PhysicalLine.text = lines'.map PhysicalLine.text := by
  have hfrom {done : List Char} {lines : List PhysicalLine} (h : CutInto done todo lines) :
      lines.map PhysicalLine.text = (linesFrom 0 [] todo).map PhysicalLine.text := by
    have hbegin : CutInto [] todo (linesFrom 0 [] todo) := cutInto_iff.mpr rfl
    have hshift := hbegin.shift done
    rw [List.append_nil] at hshift
    rw [h.eq_linesFrom, ← hshift.eq_linesFrom, List.map_map]
    rfl
  exact (hfrom h).trans (hfrom h').symm

end Cut

theorem splitLines_eq_of_cutInto {done cs : List Char} {lines : List PhysicalLine} (h : CutInto done cs lines)
    (hne : cs ≠ []) : splitLines (String.ofList cs) = lines.map PhysicalLine.text := by
  have hsource : String.ofList cs ≠ "" := mt String.ofList_eq_empty_iff.mp hne
  have hcut := cutInto_physicalLines hsource
  rw [String.toList_ofList] at hcut
  exact hcut.map_text_eq h

/-- The text from a line to a later one has the lines between them, both included. -/
theorem splitLines_of_slice {source s : String} {first last : PhysicalLine} {i j : Nat}
    (hi : (physicalLines source)[i]? = some first) (hj : (physicalLines source)[j]? = some last) (hle : i ≤ j)
    (hslice : Text.slice? source first.start last.stop = some s) (hne : s ≠ "") :
    splitLines s = ((splitLines source).drop i).take (j + 1 - i) := by
  have hcut := cutInto_of_line hi
  obtain ⟨before, rest, hsource, hstart, hdrop⟩ := hcut.drop hi
  have hj' : ((physicalLines source).drop i)[j - i]? = some last := by
    rw [List.getElem?_drop, Nat.add_sub_cancel' hle, hj]
  obtain ⟨middle, after, rfl, hstop, htake⟩ := hdrop.take hj'
  rw [List.nil_append] at hstart hstop htake
  rw [← List.append_assoc] at hsource
  have hmiddle : s = String.ofList middle := by
    have hpart := Text.slice?_of_split hsource
    rw [← hstart, ← hstop, hslice] at hpart
    exact Option.some.inj hpart
  subst hmiddle
  rw [splitLines_eq_of_cutInto htake fun hnil => hne (String.ofList_eq_empty_iff.mpr hnil)]
  have hlast : PhysicalLine.text { last with terminator := none } = last.text := rfl
  have hcount : j + 1 - i = j - i + 1 := by omega
  rw [hcount, splitLines, ← List.map_drop, ← List.map_take, List.take_add_one, hj', List.map_append,
    List.map_append, List.map_singleton, hlast]
  rfl

end DocLint
