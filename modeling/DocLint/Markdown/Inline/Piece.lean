import DocLint.Markdown.Cell
import DocLint.Markdown.Inline.Autolink

/-!
# The parts of a text

A text is read into pieces: characters that stand for themselves, escaped ones, line endings, runs of
markers, and nodes that are complete. When the runs are matched, what is left makes nodes: neighbouring
characters join to one node of text.
-/

namespace DocLint.Markdown

set_option autoImplicit false

/-- A run of markers of emphasis. -/
structure Delimiter where
  marker : Char
  cells : List Cell
  opens : Bool
  closes : Bool
  deriving Repr

/-- A part of a text. -/
inductive Piece where
  | char (cell : Cell)
  /-- Characters that are written otherwise, by an escape or a reference. -/
  | literal (value : List Char) (position : Position)
  | eol (cell : Cell)
  /-- White space at the begin of a line, which belongs to characters directly after it and to nothing
  else. -/
  | margin (cell : Cell)
  | node (node : Node)
  | run (delimiter : Delimiter)
  /-- Pieces that are emphasized. -/
  | span (kind : NodeKind) (position : Position) (pieces : List Piece)

namespace Piece

/-- Whether a piece is white space that may be dropped at the end of a line. -/
def isBlank : Piece → Bool
  | char cell => cell.isBlank
  | _ => false

def isSpace : Piece → Bool
  | char cell => cell.char == ' '
  | _ => false

/-- A run that was not matched is characters. -/
def unmatched : Piece → List Piece
  | run delimiter => delimiter.cells.map char
  | piece => [piece]

end Piece

/-- A node of text while it is being joined. -/
structure TextRun where
  start : Point
  stop : Point
  /-- Its characters, newest first. -/
  value : List Char

/-- The node of text that is being joined, if any. -/
def TextRun.nodes : Option TextRun → List Node
  | none => []
  | some t => [⟨.text (String.ofList t.value.reverse), some ⟨t.start, t.stop⟩, []⟩]

/-- Joins characters to the text before them. -/
def TextRun.join (open' : Option TextRun) (position : Position) (value : List Char) :
    Option TextRun :=
  match open' with
  | none => some ⟨position.start, position.stop, value.reverse⟩
  | some t => some ⟨t.start, position.stop, value.reverse ++ t.value⟩

/-- Where cells stand. -/
def positionOf (cells : List Cell) : Position :=
  match cells.head?, cells.getLast? with
  | some a, some b => ⟨a.start, b.finish⟩
  | _, _ => ⟨⟨1, 0⟩, ⟨1, 0⟩⟩

/-- A link that is its own address. `inner` are the cells without the brackets around them. -/
def addressNode (cells inner : List Cell) : Node :=
  ⟨.link, some (positionOf cells), [⟨.text (stringOf inner), some (positionOf inner), []⟩]⟩

/-- Finds mail addresses in neighbouring characters: `back` holds those since the last address, nearest
first, and `skip` those that are still to be passed over. -/
def mailPieces (back : List Cell) (skip : Nat) : List Cell → List Piece
  | [] => back.reverse.map Piece.char
  | c :: rest =>
    match skip with
    | n + 1 => mailPieces back n rest
    | 0 =>
      if c.char == '@' then
        match plainMail? (chars back) (chars rest) with
        | some (before, after) =>
          let cells := (back.take before).reverse ++ c :: rest.take after
          (back.drop before).reverse.map Piece.char ++ Piece.node (addressNode cells cells) ::
            match rest.drop after with
            | [] => []
            | d :: _ => mailPieces [d] (after + 1) rest
        | none => mailPieces (c :: back) 0 rest
      else
        mailPieces (c :: back) 0 rest

/-- Finds mail addresses in runs of neighbouring characters. `run` is the current one, newest first. -/
def withMail (run : List Cell) : List Piece → List Piece
  | [] => mailPieces [] 0 run.reverse
  | .char cell :: rest => withMail (cell :: run) rest
  | piece :: rest => mailPieces [] 0 run.reverse ++ piece :: withMail [] rest

/-- Makes nodes of pieces; `open'` is the text directly before them. -/
def nodesFrom (open' : Option TextRun) : List Piece → List Node
  | [] => TextRun.nodes open'
  | .char cell :: rest =>
    nodesFrom (TextRun.join open' ⟨cell.start, cell.finish⟩ cell.text) rest
  | .literal value position :: rest => nodesFrom (TextRun.join open' position value) rest
  | .margin _ :: rest => nodesFrom open' rest
  | .eol cell :: rest => nodesFrom (TextRun.join open' ⟨cell.start, cell.finish⟩ cell.text) rest
  | .node n :: rest => TextRun.nodes open' ++ n :: nodesFrom none rest
  | .run _ :: rest => TextRun.nodes open' ++ nodesFrom none rest
  | .span kind position pieces :: rest =>
    TextRun.nodes open' ++ ⟨kind, some position, nodesFrom none pieces⟩ :: nodesFrom none rest

/-- Makes characters of margins that stand before characters. -/
def settleMargins : List Piece → List Piece
  | .margin cell :: .char d :: rest => .char cell :: .char d :: settleMargins rest
  | .span kind position pieces :: rest =>
    .span kind position (settleMargins pieces) :: settleMargins rest
  | piece :: rest => piece :: settleMargins rest
  | [] => []

/-- Finds mail addresses at every level of emphasis. -/
def linkMail : List Piece → List Piece
  | [] => []
  | .span kind position pieces :: rest =>
    .span kind position (withMail [] (linkMail pieces)) :: linkMail rest
  | piece :: rest => piece :: linkMail rest

end DocLint.Markdown
