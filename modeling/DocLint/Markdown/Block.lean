import DocLint.Markdown.Cell

/-!
# The blocks of a document

The outline of a document is a tree of containers whose leaves are blocks. Runs of text lines stay
unread here: whether they are definitions, a paragraph or the text of a heading is decided when the
outline is complete.
-/

namespace DocLint.Markdown

set_option autoImplicit false

/-- Blocks that hold other blocks. -/
inductive ContainerKind where
  | blockQuote
  /-- A list item with its marker (of an ordered item, the delimiter), the columns that its content is
  indented by, and whether its first line is blank. -/
  | listItem (marker : Char) (size : Nat) (blankInitial : Bool)
  | footnoteDefinition (label : List Char)
  deriving DecidableEq, Repr

/-- One line of a table. -/
structure TableLine where
  cells : List Cell
  position : Position
  deriving Repr

/-- Blocks that hold no others. -/
inductive Leaf where
  | thematicBreak
  | heading (level : Nat) (text : List Cell)
  | code (style : CodeStyle) (lang info : Option String) (value : String)
  | html (value : String)
  | table (rows : List TableLine)
  /-- Lines of text; `attached` when nothing of a container stands before the first of them. -/
  | content (cells : List Cell) (attached : Bool)
  /-- The underline of a heading, and the line ending after it. -/
  | underline (cells eol : List Cell)
  deriving Repr

/-- A part of the outline. -/
inductive Block where
  | leaf (leaf : Leaf) (position : Position)
  | container (kind : ContainerKind) (position : Position) (blocks : List Block)

/-- Where a block stands. -/
def Block.position : Block → Position
  | .leaf _ position => position
  | .container _ position _ => position

end DocLint.Markdown
