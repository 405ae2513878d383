import DocLint.Markdown.Outline
import DocLint.Proofs.Markdown.Lines

/-!
# Code that stays open over several lines

Code that is being read knows where it began. It ends somewhere after its first line and not after what has
been read. So the source between its ends opens with a fence if the source of its first line does: always if
it is fenced, and together with its value if it is indented.
-/

namespace DocLint.Markdown

set_option autoImplicit false

variable {source done : List Char} {l : Line} {start stop : Nat}

/-- A block that begins at a byte offset and is still open when `done` has been read. -/
structure Opened (source done : List Char) (start : Nat) where
  before : List Char
  /-- The rest of its first line. -/
  first : List Char
  /-- What was read after that. -/
  since : List Char
  done_eq : done = before ++ (first ++ since)
  start_eq : start = Text.byteLength before
  isPrefix : done <+: source
  since_begins : BeginsWithEol since
  /-- There is nothing after the first line only at the end of the source. -/
  closed : since = [] → done = source

namespace Opened

theorem done_append (a : Opened source done start) (more : List Char) :
    done ++ more = a.before ++ (a.first ++ (a.since ++ more)) := by
  simpa only [List.append_assoc] using congrArg (· ++ more) a.done_eq

/-- Whether a block may end at an offset. -/
def Reaches (a : Opened source done start) (stop : Nat) : Prop :=
  ∃ m, m <+: a.since ∧ stop = Text.byteLength (a.before ++ (a.first ++ m))

/-- Goes on with a further line. -/
def advance (a : Opened source done start) (p : LineIn source done l) :
    Opened source (done ++ p.whole) start where
  before := a.before
  first := a.first
  since := a.since ++ p.whole
  done_eq := a.done_append p.whole
  start_eq := a.start_eq
  isPrefix := p.isPrefix
  since_begins := a.since_begins.append fun h => absurd (a.closed h) p.done_ne
  closed h := absurd (List.append_eq_nil_iff.mp h).2 p.nonempty

theorem Reaches.advance {a : Opened source done start} (h : a.Reaches stop) (p : LineIn source done l) :
    (a.advance p).Reaches stop := by
  obtain ⟨m, hm, hstop⟩ := h
  exact ⟨m, hm.trans (List.prefix_append _ _), hstop⟩

theorem advance_reaches (a : Opened source done start) (p : LineIn source done l) {m : List Char}
    (hm : m <+: p.whole) (hstop : stop = Text.byteLength (done ++ m)) : (a.advance p).Reaches stop := by
  refine ⟨a.since ++ m, (List.prefix_append_right_inj _).mpr hm, ?_⟩
  rw [hstop, a.done_append]
  rfl

theorem reaches_stopPoint (a : Opened source done start) (p : LineIn source done l) :
    (a.advance p).Reaches l.stopPoint.offset := by
  refine a.advance_reaches p ?_ p.stop_eq
  rw [LineIn.whole, ← List.append_assoc]
  exact List.prefix_append _ _

theorem reaches_startPoint (a : Opened source done start) (p : LineIn source done l) :
    (a.advance p).Reaches l.startPoint.offset :=
  a.advance_reaches p (List.prefix_append _ _) p.start_eq

theorem reaches_nextPoint (a : Opened source done start) (p : LineIn source done l) :
    (a.advance p).Reaches l.nextPoint.offset :=
  a.advance_reaches p List.prefix_rfl p.next_eq

theorem Reaches.le {a : Opened source done start} (h : a.Reaches stop) :
    start ≤ stop ∧ stop ≤ Text.byteLength source := by
  obtain ⟨m, ⟨rest, hrest⟩, hstop⟩ := h
  obtain ⟨todo, htodo⟩ := a.isPrefix
  have hstart := a.start_eq
  have hsource := congrArg Text.byteLength htodo
  rw [a.done_eq, ← hrest] at hsource
  simp only [Text.byteLength_append] at hsource hstop
  omega

/-- The source of a block opens with a fence if its first line does. -/
theorem Reaches.opensWithFence {text : String} {a : Opened text.toList done start} (h : a.Reaches stop) :
    opensWithFence text ⟨start, stop⟩ = beginsWithFence a.first := by
  obtain ⟨m, ⟨rest, hrest⟩, hstop⟩ := h
  obtain ⟨todo, htodo⟩ := a.isPrefix
  have hsource : text.toList = a.before ++ (a.first ++ m) ++ (rest ++ todo) := by
    refine htodo.symm.trans ?_
    rw [a.done_append, ← hrest]
    simp only [List.append_assoc]
  rw [opensWithFence_eq hsource a.start_eq hstop]
  exact beginsWithFence_append (a.since_begins.of_isPrefix ⟨rest, hrest⟩)

end Opened

/-- A block that begins with a rest of a line. -/
theorem LineIn.exists_opened (p : LineIn source done l) {xs : List Cell} (h : xs <:+ l.cells) :
    ∃ a : Opened source (done ++ p.whole) (pointAt l xs).offset,
      beginsWithFence a.first = beginsWithFence (textOf xs) ∧
        a.Reaches l.stopPoint.offset ∧ a.Reaches l.nextPoint.offset := by
  obtain ⟨front, tab, hchars, htab, hoffset⟩ := split_of_suffix _ _ _ (p.cells_eq ▸ h)
  have hpoint : (pointAt l xs).offset = (xs.head?.map Cell.offset).getD (l.start + Text.byteLength p.chars) := by
    cases xs with
    | nil =>
      have hstop : l.stop = l.start + Text.byteLength p.chars := by
        rw [p.stop_eq, p.start_eq, ← List.append_assoc, Text.byteLength_append]
      exact hstop
    | cons c rest => rfl
  have hstart : (pointAt l xs).offset = Text.byteLength (done ++ (p.mark ++ front)) := by
    rw [hpoint, hoffset, p.start_eq, ← List.append_assoc, ← Text.byteLength_append]
  have hsplit (more : List Char) : done ++ (p.mark ++ (p.chars ++ more)) =
      done ++ (p.mark ++ front) ++ (tab ++ textOf xs ++ more) := by
    conv => lhs; rw [hchars]
    simp only [List.append_assoc]
  let a : Opened source (done ++ p.whole) (pointAt l xs).offset :=
    { before := done ++ (p.mark ++ front)
      first := tab ++ textOf xs
      since := textOf l.eolCells
      done_eq := hsplit _
      start_eq := hstart
      isPrefix := p.isPrefix
      since_begins := p.eol_begins
      closed := p.whole_eq }
  refine ⟨a, beginsWithFence_of_blank htab, ⟨[], List.nil_prefix, ?_⟩, ⟨textOf l.eolCells, List.prefix_rfl, ?_⟩⟩
  · have hstop := p.stop_eq
    rw [← List.append_nil p.chars, hsplit] at hstop
    exact hstop.trans (by simp only [a, List.append_assoc, List.append_nil])
  · exact p.next_eq.trans (congrArg Text.byteLength (hsplit _))

/-- A code block lies in the source, and what it spans there opens with a fence exactly if the block is fenced or its
value does. -/
structure CodeAt (text : String) (p : Position) (style : CodeStyle) (value : String) : Prop where
  ordered : p.start.offset ≤ p.stop.offset
  inside : p.stop.offset ≤ Text.byteLength text.toList
  opens : opensWithFence text ⟨p.start.offset, p.stop.offset⟩ = (style == .fenced || beginsWithFence value.toList)

theorem Opened.Reaches.codeAt {text : String} {style : CodeStyle} {value : String} {p : Position}
    {a : Opened text.toList done p.start.offset} (h : a.Reaches p.stop.offset)
    (hfirst : beginsWithFence a.first = (style == .fenced || beginsWithFence value.toList)) :
    CodeAt text p style value where
  ordered := h.le.1
  inside := h.le.2
  opens := h.opensWithFence.trans hfirst

/-- `CodeAt` for a block that has a position. -/
def CodeIn (text : String) (position : Option Position) (style : CodeStyle) (value : String) : Prop :=
  ∃ p, position = some p ∧ CodeAt text p style value

section Fenced

/-- Fenced code that is being read. -/
def FencedIn (source done : List Char) (run : Run) : Prop :=
  ∃ a : Opened source done run.start.offset,
    a.Reaches run.stop.offset ∧ a.Reaches run.after.offset ∧ beginsWithFence a.first = true

theorem fencedIn_begin (p : LineIn source done l) {cells : List Cell} {fence : Fence}
    (h : openingFence? cells = some fence) (hcells : cells <:+ l.cells) :
    FencedIn source (done ++ p.whole) (Run.begin l (dropBlanks cells) []) := by
  obtain ⟨a, hfirst, hstop, hnext⟩ := p.exists_opened ((dropBlanks_suffix cells).trans hcells)
  exact ⟨a, hstop, hnext, hfirst.trans (beginsWithFence_of_openingFence? h (p.isPlain hcells))⟩

theorem Run.extend_reaches {run : Run} (a : Opened source done run.start.offset) (p : LineIn source done l)
    (rest cells : List Cell) :
    (a.advance p).Reaches (run.extend l rest cells).stop.offset ∧
      (a.advance p).Reaches (run.extend l rest cells).after.offset := by
  unfold Run.extend
  have hafter : (a.advance p).Reaches
      (if (rest.isEmpty && l.eol.isNone) = true then l.startPoint else l.nextPoint).offset := by
    split
    · exact a.reaches_startPoint p
    · exact a.reaches_nextPoint p
  refine ⟨?_, hafter⟩
  simp only []
  split
  · exact hafter
  · exact a.reaches_stopPoint p

theorem FencedIn.extend {run : Run} (h : FencedIn source done run) (p : LineIn source done l)
    (rest cells : List Cell) : FencedIn source (done ++ p.whole) (run.extend l rest cells) := by
  obtain ⟨a, -, -, hfirst⟩ := h
  obtain ⟨hstop, hafter⟩ := Run.extend_reaches a p rest cells
  exact ⟨a.advance p, hstop, hafter, hfirst⟩

variable {text : String} {run : Run}

/-- A line may leave fenced code as it is. -/
theorem FencedIn.advance (h : FencedIn source done run) (p : LineIn source done l) :
    FencedIn source (done ++ p.whole) run := by
  obtain ⟨a, hstop, hafter, hfirst⟩ := h
  exact ⟨a.advance p, hstop.advance p, hafter.advance p, hfirst⟩

/-- Fenced code may end where its last line ends, where the line after that begins, or with a further line. -/
theorem FencedIn.codeIn (h : FencedIn text.toList done run) (value : String) :
    CodeIn text run.position .fenced value ∧ CodeIn text (some ⟨run.start, run.after⟩) .fenced value := by
  obtain ⟨a, hstop, hafter, hfirst⟩ := h
  exact ⟨⟨run.position, rfl, hstop.codeAt hfirst⟩, ⟨_, rfl, hafter.codeAt hfirst⟩⟩

theorem FencedIn.codeIn_stopPoint (h : FencedIn text.toList done run) (p : LineIn text.toList done l)
    (value : String) : CodeIn text (some ⟨run.start, l.stopPoint⟩) .fenced value := by
  obtain ⟨a, -, -, hfirst⟩ := h
  have hstop : (a.advance p).Reaches l.stopPoint.offset := a.reaches_stopPoint p
  exact ⟨⟨run.start, l.stopPoint⟩, rfl, Opened.Reaches.codeAt (a := a.advance p) hstop hfirst⟩

end Fenced

section Indented

/-- Indented code that is being read: its value begins like its first line. -/
def IndentedIn (source done : List Char) (run : Run) : Prop :=
  ∃ a : Opened source done run.start.offset, a.Reaches run.stop.offset ∧
    ∃ u z, textOf run.cells = u ++ z ∧ u ≠ [] ∧ (∀ c ∈ u, ¬ IsEolChar c) ∧
      beginsWithFence u = beginsWithFence a.first ∧ BeginsWithEol (z ++ textOf run.pending) ∧
      (z ++ textOf run.pending = [] → done = source)

variable {text : String} {run : Run}

theorem indentedIn_begin (p : LineIn source done l) {cells : List Cell} (hcells : cells <:+ l.cells)
    (hindent : tabStop ≤ indentOf cells) (hblank : allBlank cells = false) :
    IndentedIn source (done ++ p.whole) (Run.begin l cells (cells.drop tabStop)) := by
  obtain ⟨a, hfirst, hstop, -⟩ := p.exists_opened hcells
  have hplain := p.isPlain hcells
  refine ⟨a, hstop, textOf (cells.drop tabStop), [], (List.append_nil _).symm, ?_, ?_, ?_, ?_, ?_⟩
  · exact textOf_drop_ne_nil hplain hindent hblank
  · exact p.noEol ((List.drop_suffix _ _).trans hcells)
  · exact (beginsWithFence_drop hplain hindent).trans hfirst.symm
  · exact p.eol_begins
  · exact p.whole_eq

theorem IndentedIn.advance (h : IndentedIn source done run) (p : LineIn source done l) :
    IndentedIn source (done ++ p.whole) run := by
  obtain ⟨a, hstop, u, z, htext, hne, hnoEol, hfirst, hbegins, hclosed⟩ := h
  refine ⟨a.advance p, hstop.advance p, u, z, htext, hne, hnoEol, hfirst, hbegins, ?_⟩
  intro hnil
  exact absurd (hclosed hnil) p.done_ne

theorem IndentedIn.extend (h : IndentedIn source done run) (p : LineIn source done l)
    (rest cells : List Cell) : IndentedIn source (done ++ p.whole) (run.extend l rest cells) := by
  obtain ⟨a, -, u, z, htext, hne, hnoEol, hfirst, hbegins, hclosed⟩ := h
  refine ⟨a.advance p, (Run.extend_reaches a p rest cells).1, u, z ++ textOf run.pending ++ textOf cells, ?_,
    hne, hnoEol, hfirst, ?_, ?_⟩
  · simp only [Run.extend, textOf_append, htext, List.append_assoc]
  · -- another line was read, so that a line ending stands before it
    rw [List.append_assoc]
    exact hbegins.append fun hnil => absurd (hclosed hnil) p.done_ne
  · intro hnil
    exact p.whole_eq (List.append_eq_nil_iff.mp hnil).2

theorem IndentedIn.skip (h : IndentedIn source done run) (p : LineIn source done l) :
    IndentedIn source (done ++ p.whole) (run.skip l) := by
  obtain ⟨a, hstop, u, z, htext, hne, hnoEol, hfirst, hbegins, hclosed⟩ := h
  have hpending : z ++ textOf (run.skip l).pending = z ++ textOf run.pending ++ textOf l.eolCells := by
    simp only [Run.skip, textOf_append, List.append_assoc]
  refine ⟨a.advance p, hstop.advance p, u, z, htext, hne, hnoEol, hfirst, ?_, ?_⟩
  · rw [hpending]
    exact hbegins.append fun _ => p.eol_begins
  · rw [hpending]
    intro hnil
    exact p.whole_eq (List.append_eq_nil_iff.mp hnil).2

/-- The value of indented code opens with a fence if its source does. -/
theorem IndentedIn.codeIn (h : IndentedIn text.toList done run) :
    CodeIn text run.position .indented (codeValue run.cells) := by
  obtain ⟨a, hstop, u, z, htext, hne, hnoEol, hfirst, hbegins, -⟩ := h
  have hz : BeginsWithEol z := hbegins.of_isPrefix (List.prefix_append _ _)
  have hvalue := beginsWithFence_codeValue htext hnoEol hne hz
  exact ⟨run.position, rfl, hstop.codeAt (hfirst.symm.trans hvalue.symm)⟩

end Indented

end DocLint.Markdown
