import DocLint.Proofs.Markdown.Cells
import DocLint.Proofs.Text.Lines

/-!
# Lines in their source

The lines of a source follow one another without gaps: after the text before a line come its characters and
its line ending. A block that began on one line stays open while further lines are read; what was read since
the end of its first line is empty or opens with a line ending.
-/

namespace DocLint.Markdown

set_option autoImplicit false

variable {source done : List Char} {l : Line}

/-- A line in a source of which `done` has been read before. -/
structure LineIn (source done : List Char) (l : Line) where
  /-- The byte order mark, if the line has one. -/
  mark : List Char
  chars : List Char
  /-- The column of the first character. -/
  column : Nat
  todo : List Char
  source_eq : source = done ++ (mark ++ (chars ++ textOf l.eolCells)) ++ todo
  start_eq : l.start = Text.byteLength (done ++ mark)
  cells_eq : l.cells = cellsFrom l.number l.start column chars
  stop_eq : l.stop = Text.byteLength (done ++ (mark ++ chars))
  next_eq : l.nextPoint.offset = Text.byteLength (done ++ (mark ++ (chars ++ textOf l.eolCells)))
  chars_noEol : ∀ c ∈ chars, ¬ IsEolChar c
  eol_begins : BeginsWithEol (textOf l.eolCells)
  /-- Only the last line has no ending. -/
  last : textOf l.eolCells = [] → todo = []
  nonempty : mark ++ (chars ++ textOf l.eolCells) ≠ []

namespace LineIn

/-- The characters of a line with its ending. -/
def whole (p : LineIn source done l) : List Char :=
  p.mark ++ (p.chars ++ textOf l.eolCells)

theorem isPrefix (p : LineIn source done l) : done ++ p.whole <+: source :=
  ⟨p.todo, p.source_eq.symm⟩

/-- After a line without an ending the source has been read. -/
theorem whole_eq (p : LineIn source done l) (h : textOf l.eolCells = []) : done ++ p.whole = source := by
  have hsource := p.source_eq
  rw [p.last h, List.append_nil] at hsource
  exact hsource.symm

theorem done_ne (p : LineIn source done l) : done ≠ source := by
  intro h
  have hlength := congrArg List.length (h.trans p.source_eq)
  have hpos := List.length_pos_iff.mpr p.nonempty
  simp only [List.length_append] at hlength hpos
  omega

theorem isPlain (p : LineIn source done l) {xs : List Cell} (h : xs <:+ l.cells) : ∀ c ∈ xs, c.IsPlain := by
  intro c hc
  exact isPlain_of_mem_cellsFrom _ _ _ (p.cells_eq ▸ h.subset hc)

theorem noEol (p : LineIn source done l) {xs : List Cell} (h : xs <:+ l.cells) :
    ∀ c ∈ textOf xs, ¬ IsEolChar c := by
  intro c hc
  obtain ⟨front, hfront⟩ := h
  have htext : textOf l.cells = p.chars := by rw [p.cells_eq, textOf_cellsFrom]
  rw [← hfront, textOf_append] at htext
  exact p.chars_noEol c (htext ▸ List.mem_append_right _ hc)

end LineIn

/-- Lines that follow one another in a source. -/
inductive LinesIn (source : List Char) : List Char → List Line → Prop where
  | nil (done : List Char) : LinesIn source done []
  | cons {done : List Char} {l : Line} {rest : List Line} (p : LineIn source done l) :
    LinesIn source (done ++ p.whole) rest → LinesIn source done (l :: rest)

section Source

theorem beginsWithEol_terminator (t : Terminator) : BeginsWithEol t.chars := by
  cases t <;> simp [Terminator.chars, IsEolChar]

def eolCell (number : Nat) (line : PhysicalLine) (t : Terminator) : Cell :=
  ⟨'\n', t.chars, number, line.stop, line.stop + t.size, 0⟩

/-- The characters of a physical line are those of its cells, but for a byte order mark. -/
theorem ofPhysical_eq {number : Nat} {line : PhysicalLine} (hstart : line.start = Text.byteLength done)
    (hfirst : number = 1 → done = []) :
    ∃ mark cs column, line.chars = mark ++ cs ∧
      Line.ofPhysical number line =
        ⟨number, Text.byteLength (done ++ mark), cellsFrom number (Text.byteLength (done ++ mark)) column cs,
          line.stop, line.terminator.map (eolCell number line)⟩ := by
  unfold Line.ofPhysical
  split
  · next rest hchars =>
    refine ⟨['\uFEFF'], rest, 3, hchars, ?_⟩
    rw [hfirst rfl]
    rfl
  · refine ⟨[], line.chars, 0, rfl, ?_⟩
    rw [List.append_nil, ← hstart]
    rfl

theorem lineIn_ofPhysical {number : Nat} (line : PhysicalLine) {ending todo : List Char}
    (hstart : line.start = Text.byteLength done) (hfirst : number = 1 → done = [])
    (hending : ending = (line.terminator.map Terminator.chars).getD [])
    (hsource : source = done ++ (line.chars ++ ending) ++ todo)
    (hnoEol : ∀ c ∈ line.chars, ¬ IsEolChar c) (hlast : line.terminator = none → todo = [])
    (hnonempty : line.chars ++ ending ≠ []) :
    ∃ p : LineIn source done (Line.ofPhysical number line), p.whole = line.chars ++ ending := by
  obtain ⟨mark, cs, column, hchars, heq⟩ := ofPhysical_eq hstart hfirst
  have hstop : line.stop = Text.byteLength (done ++ (mark ++ cs)) := by
    rw [PhysicalLine.stop, hstart, hchars, ← Text.byteLength_append]
  have heol : textOf (Line.ofPhysical number line).eolCells = ending := by
    rw [heq, hending]
    cases line.terminator with
    | none => rfl
    | some t => simp [Line.eolCells, eolCell]
  have hnext : (Line.ofPhysical number line).nextPoint.offset =
      Text.byteLength (done ++ (mark ++ (cs ++ ending))) := by
    rw [heq, hending]
    cases line.terminator with
    | none => simpa [Line.nextPoint, Line.stopPoint] using hstop
    | some t =>
      have hsize : line.stop + t.size = Text.byteLength (done ++ (mark ++ cs) ++ t.chars) := by
        rw [Text.byteLength_append, ← hstop, byteLength_terminator]
      simpa [Line.nextPoint, Cell.finish, eolCell] using hsize
  refine ⟨⟨mark, cs, column, todo, ?_, ?_, ?_, ?_, ?_, ?_, ?_, ?_, ?_⟩, ?_⟩
  · rw [heol, hsource, hchars, List.append_assoc mark]
  · rw [heq]
  · rw [heq]
  · rw [heq]
    exact hstop
  · rw [heol]
    exact hnext
  · intro c hc
    exact hnoEol c (hchars ▸ List.mem_append_right _ hc)
  · rw [heol, hending]
    cases line.terminator with
    | none => exact beginsWithEol_nil
    | some t => exact beginsWithEol_terminator t
  · rw [heol, hending]
    intro hnil
    apply hlast
    cases hterminator : line.terminator with
    | none => rfl
    | some t =>
      rw [hterminator] at hnil
      cases t <;> simp [Terminator.chars] at hnil
  · rw [heol, ← List.append_assoc, ← hchars]
    exact hnonempty
  · show mark ++ (cs ++ textOf (Line.ofPhysical number line).eolCells) = line.chars ++ ending
    rw [heol, ← List.append_assoc, ← hchars]

theorem not_isEolChar_of_isPlain {chars : List Char} (h : IsPlain chars) : ∀ c ∈ chars, ¬ IsEolChar c := by
  intro c hc heol
  exact heol.elim (h c hc).1 (h c hc).2

theorem linesIn_linesOfPhysical {todo : List Char} {lines : List PhysicalLine} (hcut : CutInto done todo lines)
    {number : Nat} (hnumber : 0 < number) (hfirst : number = 1 → done = []) (hsource : source = done ++ todo) :
    LinesIn source done (linesOfPhysical number lines) := by
  induction hcut generalizing number with
  | @last done chars hplain =>
    rw [linesOfPhysical]
    split
    · exact .nil _
    · next hsome =>
      have hwhole : source = done ++ (chars ++ []) ++ [] := by simpa using hsource
      have hnonempty : chars ++ [] ≠ [] := by simpa using hsome
      obtain ⟨p, -⟩ := lineIn_ofPhysical ⟨Text.byteLength done, chars, none⟩ rfl hfirst rfl hwhole
        (not_isEolChar_of_isPlain hplain) (fun _ => rfl) hnonempty
      exact .cons p (.nil _)
  | @line done chars rest t lines hplain _ _ ih =>
    have hsplit : source = done ++ (chars ++ t.chars) ++ rest := by simpa using hsource
    have hnonempty : chars ++ t.chars ≠ [] := by
      cases t <;> simp [Terminator.chars]
    obtain ⟨p, hp⟩ := lineIn_ofPhysical ⟨Text.byteLength done, chars, some t⟩ rfl hfirst rfl hsplit
      (not_isEolChar_of_isPlain hplain) (fun hnone => absurd hnone (Option.some_ne_none t)) hnonempty
    rw [linesOfPhysical, if_neg (by simp)]
    refine .cons p ?_
    rw [hp]
    exact ih (Nat.succ_pos number) (by omega) hsplit

theorem linesIn_linesOf (text : String) : LinesIn text.toList [] (linesOf text) := by
  unfold linesOf
  by_cases h : text = ""
  · rw [h, physicalLines_empty]
    exact .nil _
  · exact linesIn_linesOfPhysical (cutInto_physicalLines h) Nat.one_pos (fun _ => rfl) rfl

end Source

end DocLint.Markdown
