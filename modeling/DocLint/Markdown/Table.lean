import DocLint.Markdown.Block

/-!
# Tables

A table is a head row, a row of delimiters with as many cells, and any number of body rows. A pipe
divides cells unless a backslash stands before it.
-/

namespace DocLint.Markdown

set_option autoImplicit false

/-- A part of a row: a pipe, or a run of characters without pipes and white space. -/
inductive RowPart where
  | divider (pipe : Cell)
  | data (first last : Cell)
  deriving Repr

/-- Adds one cell to the parts that follow it: `joined` when the next part's data continue it. -/
def consRowData (c : Cell) (joined : Bool) (parts : List RowPart) : List RowPart :=
  match joined, parts with
  | true, .data _ last :: rest => .data c last :: rest
  | _, rest => .data c c :: rest

/-- The parts of a row from right to left: the parts so far, and whether a data part is open at the
left end. `escaped` tells that the cell is what a backslash protects. -/
def rowPartsFrom (escaped : Bool) : List Cell → List RowPart × Bool
  | [] => ([], false)
  | c :: rest =>
    if !escaped && c.char == '|' then
      let (parts, _) := rowPartsFrom false rest
      (.divider c :: parts, false)
    else if !escaped && (c.isBlank || c.isEol) then
      let (parts, _) := rowPartsFrom false rest
      (parts, false)
    else
      let escapes := !escaped && c.char == '\\' &&
        match rest with
        | d :: _ => d.char == '\\' || d.char == '|'
        | [] => false
      let (parts, joined) := rowPartsFrom escapes rest
      (consRowData c joined parts, true)

def rowParts (cells : List Cell) : List RowPart :=
  (rowPartsFrom false cells).1

/-- Counts the cells of a head row: a part after a pipe, or the first part, begins a cell. -/
def countHead (fresh : Bool) : List RowPart → Nat
  | [] => 0
  | .divider _ :: rest => (if fresh then 1 else 0) + countHead true rest
  | .data _ _ :: rest => (if fresh then 1 else 0) + countHead false rest

/-- Whether a line cannot be a row of a table because of the character that it begins with: one that begins
other things, whether it does so here or not. -/
def isNoRow (cells : List Cell) : Bool :=
  cells.head?.any fun c => "#$*<_`ei~\x7b".toList.contains c.char

/-- Whether a line is tried as a row of a table. -/
def mayBeRow (cells : List Cell) : Bool :=
  !isNoRow cells && (afterIndent? cells).isSome

/-- Whether a row ends with a pipe. -/
def endsWithPipe (cells : List Cell) : Bool :=
  match (rowParts cells).getLast? with
  | some (.divider _) => true
  | _ => false

/-- The number of cells of a line that may be the head row of a table. A lone pipe may not. A pipe in front
begins a cell only when another one is left over before it (`loosePipe`). -/
def headCount? (loosePipe : Bool) (cells : List Cell) : Option Nat :=
  match afterIndent? cells with
  | some rest =>
    match rowParts rest with
    | [] => none
    | [.divider _] => none
    | .divider c :: parts => some (countHead loosePipe (.divider c :: parts))
    | .data a b :: parts => some (countHead true (.data a b :: parts))
  | none => none

/-- Where a row of delimiters is being read. -/
inductive DelimiterScan where
  | start
  /-- In a cell, before its filler. -/
  | cell
  /-- After the colon before a filler. -/
  | colon
  | filler
  /-- After the filler. -/
  | after
  deriving DecidableEq, Repr

/-- What a row of delimiters holds so far: its cells, and whether a pipe or a colon was seen. -/
structure Delimiters where
  scan : DelimiterScan
  count : Nat
  marked : Bool
  deriving Repr

namespace Delimiters

/-- Reads a character where a cell's filler may begin. -/
def begin? (d : Delimiters) (c : Char) : Option Delimiters :=
  if c == '-' then some ⟨.filler, d.count + 1, d.marked⟩
  else if c == ':' then some ⟨.colon, d.count + 1, true⟩
  else none

/-- Reads one character of a row of delimiters. -/
def next? (d : Delimiters) (c : Char) : Option Delimiters :=
  let blank := c == ' ' || c == '\t'
  match d.scan with
  | .start => if c == '|' then some ⟨.cell, d.count, true⟩ else d.begin? c
  | .cell => if blank then some d else d.begin? c
  | .colon => if c == '-' then some ⟨.filler, d.count, d.marked⟩ else none
  | .filler =>
    if c == '-' then some d
    else if c == ':' then some ⟨.after, d.count, true⟩
    else if blank then some ⟨.after, d.count, d.marked⟩
    else if c == '|' then some ⟨.cell, d.count, true⟩
    else none
  | .after =>
    if blank then some d
    else if c == '|' then some ⟨.cell, d.count, true⟩
    else none

end Delimiters

/-- Reads a row of delimiters to its end. -/
def readDelimiters (d : Delimiters) : List Char → Option Delimiters
  | [] => if d.scan = .start ∨ d.scan = .colon then none else some d
  | c :: rest => (d.next? c).bind fun d => readDelimiters d rest

/-- Whether a line is the row of delimiters of a table with `count` cells. Without a pipe or a colon
it would be an underline or a break. -/
def isDelimiterRow (count : Nat) (cells : List Cell) : Bool :=
  match afterIndent? cells with
  | some rest =>
    match readDelimiters ⟨.start, 0, false⟩ (chars rest) with
    | some d => d.marked && d.count == count
    | none => false
  | none => false

/-- A cell of a table: where it stands and the text in it. -/
structure TableCell where
  position : Position
  text : List Cell
  deriving Repr

/-- A cell while its row is being divided: where it begins, and its first and last data. -/
structure CellSpan where
  start : Point
  data : Option (Cell × Cell)
  deriving Repr

/-- Divides the parts of a row, `current` being the cell that the next part falls into and `first`
telling that no part was read yet. The pipe in front of the row belongs to the first cell. -/
def divideRow (first : Bool) (current : CellSpan) : List RowPart → List CellSpan
  | [] => [current]
  | .divider c :: rest =>
    if first then divideRow false current rest
    else current :: divideRow false ⟨c.start, none⟩ rest
  | .data a b :: rest =>
    divideRow false ⟨current.start, some ((current.data.map (·.1)).getD a, b)⟩ rest

/-- The cells of a row. A pipe at its end belongs to the last cell. -/
def tableCells (line : TableLine) : List TableCell :=
  let spans := divideRow true ⟨line.position.start, none⟩ (rowParts line.cells)
  let spans := match spans.reverse with
    | last :: b :: rest => if last.data.isNone then (b :: rest).reverse else spans
    | _ => spans
  let stops := (spans.drop 1).map CellSpan.start ++ [line.position.stop]
  (spans.zip stops).map fun (span, stop) =>
    { position := ⟨span.start, stop⟩
      text := match span.data with
        | some (a, b) => line.cells.filter fun c => a.offset ≤ c.offset && c.offset ≤ b.offset
        | none => [] }

end DocLint.Markdown
