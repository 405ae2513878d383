import DocLint.Markdown.Block
import DocLint.Markdown.CharacterReference

/-!
# Code blocks

Fenced code stands between an opening and a closing run of backticks or tildes. The first word after
the opening run is the language, the rest of the line further information. Indented code is a run of
lines indented by at least four columns.
-/

namespace DocLint.Markdown

set_option autoImplicit false

/-- The opening line of fenced code. -/
structure Fence where
  marker : Char
  /-- The number of markers. -/
  size : Nat
  /-- The size of the white space before the markers; as many columns are dropped from each line. -/
  indent : Nat
  lang : Option String
  info : Option String
  deriving Repr

/-- The least number of markers of a fence. -/
def fenceSize : Nat := 3

/-- Decodes a word of the information unless it is empty. -/
def infoWord? (cells : List Cell) : Option String :=
  if cells.isEmpty then none else some (decodeText (textOf cells))

/-- Reads the opening line of fenced code. After backticks the line has no further backtick. -/
def openingFence? (cells : List Cell) : Option Fence :=
  match afterIndent? cells with
  | some (c :: rest) =>
    if c.char == '`' || c.char == '~' then
      let (marks, after) := spanCells (· == c.char) (c :: rest)
      if marks.length < fenceSize || (c.char == '`' && after.any (·.char == '`')) then
        none
      else
        let (lang, after) := (dropBlanks after).span (!·.isBlank)
        some
          { marker := c.char
            size := marks.length
            indent := sizeOfCells (cells.takeWhile Cell.isBlank)
            lang := infoWord? lang
            info := infoWord? (dropBlanks after) }
    else
      none
  | _ => none

/-- Whether a rest of a line closes fenced code. -/
def closesFence (fence : Fence) (cells : List Cell) : Bool :=
  match afterIndent? cells with
  | some rest =>
    let (marks, after) := spanCells (· == fence.marker) rest
    fence.size ≤ marks.length && allBlank after
  | none => false

/-- Drops a line ending in front. -/
def dropFirstEol : List Cell → List Cell
  | [] => []
  | c :: rest => if c.isEol then rest else c :: rest

/-- Text without a line ending in front. -/
def trimEolStart : List Char → List Char
  | '\r' :: '\n' :: rest => rest
  | '\r' :: rest => rest
  | '\n' :: rest => rest
  | cs => cs

/-- Text without a line ending at the end. -/
def trimEolEnd (cs : List Char) : List Char :=
  match cs.reverse with
  | '\n' :: '\r' :: rest => rest.reverse
  | '\n' :: rest => rest.reverse
  | '\r' :: rest => rest.reverse
  | _ => cs

/-- The value of code: a line ending in front and one at the end do not belong to it. A carriage return and a
line feed count as one even where white space between them was taken away. -/
def codeValue (cells : List Cell) : String :=
  String.ofList (trimEolEnd (trimEolStart (textOf cells)))

end DocLint.Markdown
