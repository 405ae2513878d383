import DocLint.Text.Line
import DocLint.Markdown.Tree

/-!
# Columns of a line

The block grammar counts columns, and a tab stands for as many columns as lead to the next multiple
of four. A line is therefore read as a list of cells, one a column: a tab is a cell of its own
followed by cells that hold a virtual space. A text runs over several lines, so a cell also stands
for a line ending.
-/

namespace DocLint.Markdown

set_option autoImplicit false

/-- Columns between two tab stops. -/
def tabStop : Nat := 4

/-- One column of a line, or a line ending. -/
structure Cell where
  /-- What the grammar reads: the character, a space for the later columns of a tab, a line feed for
  every line ending. -/
  char : Char
  /-- The characters of the source the cell stands for; none for the later columns of a tab. -/
  text : List Char
  /-- The 1-based line of the cell. -/
  line : Nat
  /-- The byte offset of the character. -/
  offset : Nat
  /-- The byte offset after the cell; inside a tab, still that of the tab. -/
  stop : Nat
  /-- How many columns of the same tab come before. -/
  lead : Nat
  deriving DecidableEq, Repr

namespace Cell

/-- A space or a tab. -/
def isBlank (c : Cell) : Bool :=
  c.char == ' ' || c.char == '\t'

/-- A line ending. -/
def isEol (c : Cell) : Bool :=
  c.char == '\n'

/-- Where the cell begins. -/
def start (c : Cell) : Point :=
  ⟨c.line, c.offset⟩

/-- Where the cell ends; a line ending ends on the next line. -/
def finish (c : Cell) : Point :=
  ⟨if c.isEol then c.line + 1 else c.line, c.stop⟩

end Cell

/-- The later columns of a tab at `offset`, of which `n` are left and `lead` have passed. -/
def tabColumns (line offset lead : Nat) : Nat → List Cell
  | 0 => []
  | n + 1 =>
    ⟨' ', [], line, offset, if n = 0 then offset + 1 else offset, lead⟩
      :: tabColumns line offset (lead + 1) n

/-- The cells of the characters that start at byte `offset` and column `column`. Columns count bytes
of the encoding. -/
def cellsFrom (line offset column : Nat) : List Char → List Cell
  | [] => []
  | c :: rest =>
    if c = '\t' then
      let width := tabStop - column % tabStop
      ⟨c, [c], line, offset, if width = 1 then offset + 1 else offset, 0⟩
        :: (tabColumns line offset 1 (width - 1) ++ cellsFrom line (offset + 1) (column + width) rest)
    else
      let next := offset + c.utf8Size
      ⟨c, [c], line, offset, next, 0⟩ :: cellsFrom line next (column + c.utf8Size) rest

/-- A line as the grammar reads it. -/
structure Line where
  number : Nat
  /-- The byte offset of the first cell. -/
  start : Nat
  cells : List Cell
  /-- The byte offset of the line ending, or of the end of the source. -/
  stop : Nat
  /-- The line ending; the last line has none. -/
  eol : Option Cell
  deriving Repr

namespace Line

/-- Where the text of the line begins. -/
def startPoint (l : Line) : Point :=
  ⟨l.number, l.start⟩

/-- Where the text of the line ends. -/
def stopPoint (l : Line) : Point :=
  ⟨l.number, l.stop⟩

/-- Where the next line begins. -/
def nextPoint (l : Line) : Point :=
  match l.eol with
  | some c => c.finish
  | none => l.stopPoint

/-- Whether the line ending has two characters. -/
def hasWideEol (l : Line) : Bool :=
  l.eol.any fun c => c.text.length = 2

/-- The line ending as a list of cells. -/
def eolCells (l : Line) : List Cell :=
  l.eol.toList

end Line

/-- The point before the first of some cells on a line, or the line's end when there is none. -/
def pointAt (l : Line) : List Cell → Point
  | [] => l.stopPoint
  | c :: _ => c.start

/-- A physical line as the grammar reads it; the byte order mark of a document is not part of it,
though its bytes count as columns. -/
def Line.ofPhysical (number : Nat) (line : PhysicalLine) : Line :=
  let eol := line.terminator.map fun t =>
    Cell.mk '\n' t.chars number line.stop (line.stop + t.size) 0
  match number, line.chars with
  | 1, '\uFEFF' :: rest => ⟨number, 3, cellsFrom number 3 3 rest, line.stop, eol⟩
  | _, cs => ⟨number, line.start, cellsFrom number line.start 0 cs, line.stop, eol⟩

/-- Numbers physical lines from `number` on. An empty last line is no line of the grammar. -/
def linesOfPhysical (number : Nat) : List PhysicalLine → List Line
  | [] => []
  | line :: rest =>
    if line.chars.isEmpty && line.terminator.isNone then
      linesOfPhysical (number + 1) rest
    else
      Line.ofPhysical number line :: linesOfPhysical (number + 1) rest

def linesOf (source : String) : List Line :=
  linesOfPhysical 1 (physicalLines source)

/-! ## Reading cells -/

/-- The cells before the first one that fails `p`. -/
def spanCells (p : Char → Bool) (cells : List Cell) : List Cell × List Cell :=
  cells.span (fun c => p c.char)

/-- Takes spaces and tabs, at most `n` columns. -/
def takeBlanks : Nat → List Cell → List Cell × List Cell
  | 0, cells => ([], cells)
  | _, [] => ([], [])
  | n + 1, c :: rest =>
    if c.isBlank then
      let (taken, left) := takeBlanks n rest
      (c :: taken, left)
    else
      ([], c :: rest)

/-- Drops spaces and tabs. -/
def dropBlanks (cells : List Cell) : List Cell :=
  cells.dropWhile Cell.isBlank

/-- Whether a rest of a line holds nothing but spaces and tabs. -/
def allBlank (cells : List Cell) : Bool :=
  cells.all Cell.isBlank

/-- The columns of white space in front. -/
def indentOf (cells : List Cell) : Nat :=
  (cells.takeWhile Cell.isBlank).length

/-- What remains after white space of at most three columns, if there is no more than that. -/
def afterIndent? (cells : List Cell) : Option (List Cell) :=
  let (_, rest) := takeBlanks (tabStop - 1) cells
  match rest with
  | c :: _ => if c.isBlank then none else some rest
  | [] => some []

/-- The characters the grammar reads. -/
def chars (cells : List Cell) : List Char :=
  cells.map Cell.char

/-- The source characters of some cells, of one line or of several. What is left of a tab of which a prefix
took the first columns is no character. -/
def textOf (cells : List Cell) : List Char :=
  cells.flatMap Cell.text

/-- The source characters of some cells as a string. -/
def stringOf (cells : List Cell) : String :=
  String.ofList (textOf cells)

/-- The size of a stretch of cells: bytes of whole characters, and spaces for a tab it begins or ends
inside of. -/
def sizeOfCells (cells : List Cell) : Nat :=
  let before := match cells with
    | c :: _ => if c.lead > 0 then tabStop - c.lead else 0
    | [] => 0
  let after := match cells.getLast? with
    | some c => if c.stop = c.offset then c.lead else 0
    | none => 0
  before + Text.byteLength (textOf cells) + after

end DocLint.Markdown
