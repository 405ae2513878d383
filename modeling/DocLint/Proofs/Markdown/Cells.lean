import DocLint.Markdown.Container
import DocLint.Markdown.Fence
import DocLint.Proofs.Markdown.FenceMark
import Mathlib.Data.List.TakeDrop

/-!
# Rests of a line

What is left of a line after some prefixes is a suffix of its cells. It begins at the offset of a character
of the source, or inside a tab, which counts as a whole then. What the source has from this offset on differs
from the text of the rest by this tab only.
-/

namespace DocLint.Markdown

set_option autoImplicit false

/-- What every cell of a line holds: one character, or a column of a tab. -/
def Cell.IsPlain (c : Cell) : Prop :=
  c.text = [c.char] ∨ c.text = [] ∧ c.char = ' '

theorem Cell.blank_of_mem_text {c : Cell} (hplain : c.IsPlain) (hblank : c.isBlank = true) {x : Char}
    (hx : x ∈ c.text) : x = ' ' ∨ x = '\t' := by
  rcases hplain with htext | ⟨htext, -⟩
  · rw [htext, List.mem_singleton] at hx
    subst hx
    simpa [Cell.isBlank] using hblank
  · simp [htext] at hx

theorem Cell.text_of_not_blank {c : Cell} (hplain : c.IsPlain) (hblank : c.isBlank = false) :
    c.text = [c.char] := by
  rcases hplain with htext | ⟨-, hchar⟩
  · exact htext
  · simp [Cell.isBlank, hchar] at hblank

@[simp] theorem textOf_nil : textOf [] = [] := rfl

@[simp] theorem textOf_cons (c : Cell) (cells : List Cell) : textOf (c :: cells) = c.text ++ textOf cells := by
  simp [textOf]

@[simp] theorem textOf_append (a b : List Cell) : textOf (a ++ b) = textOf a ++ textOf b := by
  simp [textOf]

theorem blank_of_mem_textOf {cells : List Cell} (hplain : ∀ c ∈ cells, c.IsPlain)
    (hblank : ∀ c ∈ cells, c.isBlank = true) {x : Char} (hx : x ∈ textOf cells) : x = ' ' ∨ x = '\t' := by
  obtain ⟨c, hc, hxc⟩ := List.mem_flatMap.mp hx
  exact c.blank_of_mem_text (hplain c hc) (hblank c hc) hxc

section CellsFrom
variable (line offset column lead n : Nat)

@[simp] theorem textOf_tabColumns : textOf (tabColumns line offset lead n) = [] := by
  induction n generalizing lead with
  | zero => rfl
  | succ n ih => simp [tabColumns, ih]

theorem isPlain_of_mem_tabColumns {c : Cell} (hc : c ∈ tabColumns line offset lead n) :
    c.IsPlain ∧ c.offset = offset := by
  induction n generalizing lead with
  | zero => simp [tabColumns] at hc
  | succ n ih =>
    rcases List.mem_cons.mp hc with rfl | hc
    · exact ⟨.inr ⟨rfl, rfl⟩, rfl⟩
    · exact ih (lead + 1) hc

@[simp] theorem textOf_cellsFrom (cs : List Char) : textOf (cellsFrom line offset column cs) = cs := by
  induction cs generalizing offset column with
  | nil => rfl
  | cons c rest ih =>
    unfold cellsFrom
    split <;> simp [ih]

theorem isPlain_of_mem_cellsFrom {cs : List Char} {c : Cell} (hc : c ∈ cellsFrom line offset column cs) :
    c.IsPlain := by
  induction cs generalizing offset column with
  | nil => simp [cellsFrom] at hc
  | cons x rest ih =>
    unfold cellsFrom at hc
    split at hc
    · rcases List.mem_cons.mp hc with rfl | hc
      · exact .inl rfl
      · rcases List.mem_append.mp hc with hc | hc
        · exact (isPlain_of_mem_tabColumns line offset 1 _ hc).1
        · exact ih _ _ hc
    · rcases List.mem_cons.mp hc with rfl | hc
      · exact .inl rfl
      · exact ih _ _ hc

theorem suffix_append_cases {α : Type} {xs as bs : List α} (h : xs <:+ as ++ bs) :
    xs <:+ bs ∨ ∃ ys, ys ≠ [] ∧ ys <:+ as ∧ xs = ys ++ bs := by
  obtain ⟨front, hfront⟩ := h
  rcases List.append_eq_append_iff.mp hfront with ⟨ys, has, hxs⟩ | ⟨zs, -, hbs⟩
  · cases ys with
    | nil => exact .inl (by simp [hxs])
    | cons y more => exact .inr ⟨y :: more, List.cons_ne_nil y more, ⟨front, has.symm⟩, hxs⟩
  · exact .inl ⟨zs, hbs.symm⟩

/-- A rest of a line stands in the source where its first cell says, behind at most a tab that it begins
inside of. -/
theorem split_of_suffix {cs : List Char} {xs : List Cell} (h : xs <:+ cellsFrom line offset column cs) :
    ∃ front tab, cs = front ++ (tab ++ textOf xs) ∧ (∀ c ∈ tab, c = ' ' ∨ c = '\t') ∧
      ((xs.head?.map Cell.offset).getD (offset + Text.byteLength cs)) = offset + Text.byteLength front := by
  induction cs generalizing offset column with
  | nil =>
    have hxs : xs = [] := List.suffix_nil.mp h
    exact ⟨[], [], by simp [hxs], by simp, by simp [hxs]⟩
  | cons c rest ih =>
    have hwhole : xs = cellsFrom line offset column (c :: rest) →
        xs.head?.map Cell.offset = some offset := by
      rintro rfl
      unfold cellsFrom
      split <;> rfl
    by_cases hxs : xs = cellsFrom line offset column (c :: rest)
    · refine ⟨[], [], ?_, by simp, ?_⟩
      · rw [hxs, textOf_cellsFrom]
        rfl
      · simp [hwhole hxs]
    · unfold cellsFrom at h hxs
      -- from here on the rest begins after the first cell of the character
      split at h
      · next htab =>
        rw [if_pos htab] at hxs
        subst htab
        have htail := (List.suffix_cons_iff.mp h).resolve_left hxs
        rcases suffix_append_cases htail with hrest | ⟨ys, hne, hys, rfl⟩
        · obtain ⟨front, tab, hsplit, htabs, hoffset⟩ := ih _ _ hrest
          refine ⟨'\t' :: front, tab, by simp [hsplit], htabs, ?_⟩
          have hsize : ('\t').utf8Size = 1 := rfl
          rw [Text.byteLength_cons, Text.byteLength_cons, hsize, ← Nat.add_assoc, ← Nat.add_assoc, hoffset]
        · obtain ⟨y, more, rfl⟩ := List.exists_cons_of_ne_nil hne
          have hy := isPlain_of_mem_tabColumns line offset 1 _ (hys.subset List.mem_cons_self)
          have htext : textOf (y :: more) = [] := by
            obtain ⟨front, hfront⟩ := hys
            have hall := textOf_tabColumns line offset 1 (tabStop - column % tabStop - 1)
            rw [← hfront, textOf_append] at hall
            exact (List.append_eq_nil_iff.mp hall).2
          refine ⟨[], ['\t'], ?_, by simp, ?_⟩
          · rw [textOf_append, htext, textOf_cellsFrom]
            rfl
          · simp [hy.2]
      · next htab =>
        rw [if_neg htab] at hxs
        have htail := (List.suffix_cons_iff.mp h).resolve_left hxs
        obtain ⟨front, tab, hsplit, htabs, hoffset⟩ := ih _ _ htail
        refine ⟨c :: front, tab, by simp [hsplit], htabs, ?_⟩
        rw [Text.byteLength_cons, Text.byteLength_cons, ← Nat.add_assoc, ← Nat.add_assoc, hoffset]

end CellsFrom

section Blank
variable {cells : List Cell}

/-- Text after at least four columns of white space opens with a fence if the whole line does. -/
theorem blank_of_mem_take (h : tabStop ≤ indentOf cells) : ∀ c ∈ cells.take tabStop, c.isBlank = true := by
  intro c hc
  obtain ⟨rest, hrest⟩ := List.takeWhile_prefix Cell.isBlank (l := cells)
  rw [← hrest, List.take_append_of_le_length h] at hc
  exact List.all_eq_true.mp List.all_takeWhile c (List.mem_of_mem_take hc)

theorem beginsWithFence_drop (hplain : ∀ c ∈ cells, c.IsPlain) (h : tabStop ≤ indentOf cells) :
    beginsWithFence (textOf (cells.drop tabStop)) = beginsWithFence (textOf cells) := by
  have htake : ∀ x ∈ textOf (cells.take tabStop), x = ' ' ∨ x = '\t' := by
    intro x hx
    exact blank_of_mem_textOf (fun c hc => hplain c (List.mem_of_mem_take hc)) (blank_of_mem_take h) hx
  calc beginsWithFence (textOf (cells.drop tabStop))
      = beginsWithFence (textOf (cells.take tabStop) ++ textOf (cells.drop tabStop)) :=
        (beginsWithFence_of_blank htake).symm
    _ = beginsWithFence (textOf cells) := by rw [← textOf_append, List.take_append_drop]

/-- Some text is left after four columns of a line that is not blank. -/
theorem textOf_drop_ne_nil (hplain : ∀ c ∈ cells, c.IsPlain) (h : tabStop ≤ indentOf cells)
    (hblank : allBlank cells = false) : textOf (cells.drop tabStop) ≠ [] := by
  obtain ⟨c, hc, hcblank⟩ := List.all_eq_false.mp hblank
  rw [← List.take_append_drop tabStop cells] at hc
  rcases List.mem_append.mp hc with htake | hdrop
  · exact absurd (blank_of_mem_take h c htake) hcblank
  · have htext := c.text_of_not_blank (hplain c (List.mem_of_mem_drop hdrop)) (by simpa using hcblank)
    have hmem : c.char ∈ textOf (cells.drop tabStop) :=
      List.mem_flatMap.mpr ⟨c, hdrop, htext ▸ List.mem_singleton_self _⟩
    exact List.ne_nil_of_mem hmem

theorem exists_cons_of_takeWhile {p : Cell → Bool} (h : 3 ≤ (cells.takeWhile p).length) :
    ∃ a b c rest, cells = a :: b :: c :: rest ∧ p a = true ∧ p b = true ∧ p c = true := by
  obtain ⟨rest, hrest⟩ := List.takeWhile_prefix p (l := cells)
  have hall := List.all_eq_true.mp (List.all_takeWhile (p := p) (l := cells))
  generalize cells.takeWhile p = marks at h hrest hall
  match marks with
  | a :: b :: c :: more =>
    exact ⟨a, b, c, more ++ rest, hrest.symm, hall a (by simp), hall b (by simp), hall c (by simp)⟩

end Blank

section Suffix
variable {n : Nat} {cells rest : List Cell}

theorem takeBlanks_append (n : Nat) (cells : List Cell) :
    (takeBlanks n cells).1 ++ (takeBlanks n cells).2 = cells ∧
      ∀ c ∈ (takeBlanks n cells).1, c.isBlank = true := by
  induction cells generalizing n with
  | nil => cases n <;> simp [takeBlanks]
  | cons c rest ih =>
    cases n with
    | zero => simp [takeBlanks]
    | succ n =>
      rw [takeBlanks]
      split
      · next hblank =>
        obtain ⟨happend, hall⟩ := ih n
        refine ⟨by simp [happend], ?_⟩
        intro d hd
        rcases List.mem_cons.mp hd with rfl | hd
        · exact hblank
        · exact hall d hd
      · simp

theorem takeBlanks_suffix (n : Nat) (cells : List Cell) : (takeBlanks n cells).2 <:+ cells :=
  ⟨_, (takeBlanks_append n cells).1⟩

theorem dropBlanks_suffix (cells : List Cell) : dropBlanks cells <:+ cells :=
  List.dropWhile_suffix _

theorem spanCells_suffix (p : Char → Bool) (cells : List Cell) : (spanCells p cells).2 <:+ cells := by
  rw [spanCells, List.span_eq_takeWhile_dropWhile]
  exact List.dropWhile_suffix _

/-- What remains after white space of at most three columns is what remains after all of it. -/
theorem afterIndent?_eq (h : afterIndent? cells = some rest) : rest = dropBlanks cells := by
  obtain ⟨happend, hblank⟩ := takeBlanks_append (tabStop - 1) cells
  have hdrop : dropBlanks cells = dropBlanks (takeBlanks (tabStop - 1) cells).2 := by
    calc dropBlanks cells
        = dropBlanks ((takeBlanks (tabStop - 1) cells).1 ++ (takeBlanks (tabStop - 1) cells).2) := by
          rw [happend]
      _ = dropBlanks (takeBlanks (tabStop - 1) cells).2 := List.dropWhile_append_of_pos hblank
  unfold afterIndent? at h
  simp only [] at h
  rw [hdrop]
  split at h
  · next c more heq =>
    split at h
    · cases h
    · next hc =>
      cases h
      rw [heq, dropBlanks, List.dropWhile_cons_of_neg hc]
  · next heq =>
    cases h
    rw [heq]
    rfl

theorem afterIndent?_suffix (h : afterIndent? cells = some rest) : rest <:+ cells :=
  afterIndent?_eq h ▸ dropBlanks_suffix cells

/-- Behind the white space of an opening line stand three marks. -/
theorem beginsWithFence_of_openingFence? {fence : Fence} (h : openingFence? cells = some fence)
    (hplain : ∀ c ∈ cells, c.IsPlain) : beginsWithFence (textOf (dropBlanks cells)) = true := by
  unfold openingFence? at h
  split at h
  · next c rest hafter =>
    rw [← afterIndent?_eq hafter]
    split at h
    · next hmark =>
      simp only [spanCells, List.span_eq_takeWhile_dropWhile] at h
      split at h
      · cases h
      · next hsize =>
        have hthree : 3 ≤ ((c :: rest).takeWhile fun d => d.char == c.char).length := by
          refine Nat.le_of_not_lt fun hlt => hsize ?_
          rw [fenceSize, decide_eq_true hlt, Bool.true_or]
        obtain ⟨x, y, z, more, heq, hx, hy, hz⟩ := exists_cons_of_takeWhile hthree
        have hmark' : c.char = '`' ∨ c.char = '~' := by simpa using hmark
        have htext {d : Cell} (hd : d ∈ c :: rest) (hchar : (d.char == c.char) = true) : d.text = [c.char] := by
          have hblank : d.isBlank = false := by
            rw [Cell.isBlank, eq_of_beq hchar]
            rcases hmark' with hc | hc <;> rw [hc] <;> rfl
          have hplain := hplain d ((afterIndent?_suffix hafter).subset hd)
          rw [d.text_of_not_blank hplain hblank, eq_of_beq hchar]
        rw [heq, textOf_cons, textOf_cons, textOf_cons, htext (by simp [heq]) hx, htext (by simp [heq]) hy,
          htext (by simp [heq]) hz]
        exact beginsWithFence_marks hmark' _
    · cases h
  · cases h

theorem quotePrefix?_suffix (h : quotePrefix? cells = some rest) : rest <:+ cells := by
  unfold quotePrefix? at h
  split at h
  · next c more hafter =>
    split at h
    · cases h
      exact (takeBlanks_suffix 1 more).trans ((List.suffix_cons c more).trans (afterIndent?_suffix hafter))
    · cases h
  · cases h

theorem itemMarker?_suffix {interrupt : Bool} {marker : Char}
    (h : itemMarker? interrupt cells = some (marker, rest)) : rest <:+ cells := by
  unfold itemMarker? at h
  split at h
  · next c more hafter =>
    have hcells := afterIndent?_suffix hafter
    have hmore : more <:+ cells := (List.suffix_cons c more).trans hcells
    split at h
    · split at h
      · cases h
      · cases h
        exact hmore
    · split at h
      · cases h
        exact hmore
      · have hdigits := spanCells_suffix isAsciiDigit (c :: more)
        generalize spanCells isAsciiDigit (c :: more) = span at h hdigits
        obtain ⟨digits, after⟩ := span
        cases digits with
        | nil => cases h
        | cons d others =>
          cases after with
          | nil => cases h
          | cons m after =>
            simp only [] at h
            split at h
            · cases h
              exact (List.suffix_cons m _).trans (hdigits.trans hcells)
            · cases h
  · cases h

theorem itemPrefix?_suffix {interrupt wide : Bool} {kind : ContainerKind}
    (h : itemPrefix? interrupt wide cells = some (kind, rest)) : rest <:+ cells := by
  unfold itemPrefix? at h
  obtain ⟨⟨marker, after⟩, hmarker, h⟩ := Option.bind_eq_some_iff.mp h
  have hafter := itemMarker?_suffix hmarker
  simp only [] at h
  split at h
  · split at h
    · cases h
    · cases h
      exact hafter
  · have hspace := takeBlanks_suffix tabStop after
    generalize takeBlanks tabStop after = space at h hspace
    obtain ⟨taken, left⟩ := space
    cases taken with
    | nil => cases h
    | cons d more =>
      cases left with
      | nil => cases h
      | cons c left =>
        simp only [] at h
        split at h
        · cases h
          exact (takeBlanks_suffix 1 after).trans hafter
        · cases h
          exact hspace.trans hafter

theorem footnoteLabel?_suffix {fuel : Nat} {taken label : List Cell}
    (h : footnoteLabel? fuel taken cells = some (label, rest)) : rest <:+ cells := by
  fun_induction footnoteLabel? fuel taken cells with
  | case1 => cases h
  | case2 => cases h
  | case3 => cases h; exact List.suffix_cons _ _
  | case4 => cases h
  | case5 => cases h
  -- two cells are taken after a backslash, otherwise one
  | case6 _ _ _ _ _ _ e after _ _ ih => exact (ih h).trans ((List.suffix_cons e after).trans (List.suffix_cons _ _))
  | case7 _ _ _ _ _ _ _ _ _ ih => exact (ih h).trans (List.suffix_cons _ _)
  | case8 => cases h
  | case9 _ _ _ _ _ _ _ ih => exact (ih h).trans (List.suffix_cons _ _)

theorem footnotePrefix?_suffix {kind : ContainerKind} (h : footnotePrefix? cells = some (kind, rest)) :
    rest <:+ cells := by
  unfold footnotePrefix? at h
  split at h
  · next first second more hafter =>
    have hmore : more <:+ cells :=
      (List.suffix_cons second more).trans ((List.suffix_cons first _).trans (afterIndent?_suffix hafter))
    split at h
    · split at h
      · next label colon after hlabel =>
        split at h
        · cases h
          have hafter := (List.suffix_cons colon after).trans (footnoteLabel?_suffix hlabel)
          exact (dropBlanks_suffix after).trans (hafter.trans hmore)
        · cases h
      · cases h
    · cases h
  · cases h

theorem openContainer?_suffix {interrupt wide : Bool} {kind : ContainerKind}
    (h : openContainer? interrupt wide cells = some (kind, rest)) : rest <:+ cells := by
  unfold openContainer? at h
  split at h
  · next hquote =>
    cases h
    exact quotePrefix?_suffix hquote
  · split at h
    · next hitem =>
      cases h
      exact itemPrefix?_suffix hitem
    · exact footnotePrefix?_suffix h

theorem afterColumns?_suffix (h : afterColumns? n cells = some rest) : rest <:+ cells := by
  unfold afterColumns? at h
  simp only [] at h
  split at h
  · cases h
    exact takeBlanks_suffix n cells
  · cases h

theorem continueContainer?_suffix {kind kind' : ContainerKind}
    (h : continueContainer? kind cells = some (kind', rest)) : rest <:+ cells := by
  unfold continueContainer? at h
  split at h
  · obtain ⟨after, hafter, heq⟩ := Option.map_eq_some_iff.mp h
    cases heq
    exact quotePrefix?_suffix hafter
  · split at h
    · split at h
      · cases h
      · cases h
        exact takeBlanks_suffix _ cells
    · obtain ⟨after, hafter, heq⟩ := Option.map_eq_some_iff.mp h
      cases heq
      exact afterColumns?_suffix hafter
  · split at h
    · cases h
      exact takeBlanks_suffix _ cells
    · obtain ⟨after, hafter, heq⟩ := Option.map_eq_some_iff.mp h
      cases heq
      exact afterColumns?_suffix hafter

end Suffix

end DocLint.Markdown
