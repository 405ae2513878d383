/-!
# The syntax tree of a Markdown document

A node is a construct of the grammar with the place it was written at and the nodes inside it.
Literal text is kept in the kind; everything else is read off the source by position.
-/

namespace DocLint.Markdown

set_option autoImplicit false

/-- A place in the source: a 1-based line and a byte offset. -/
structure Point where
  line : Nat
  offset : Nat
  deriving DecidableEq, Repr

/-- The part of the source from `start` up to `stop`. -/
structure Position where
  start : Point
  stop : Point
  deriving DecidableEq, Repr

/-- How a block of code was written. -/
inductive CodeStyle where
  /-- Between an opening and a closing fence. -/
  | fenced
  /-- By an indentation of four columns. -/
  | indented
  deriving DecidableEq, Repr

/-- The constructs of the grammar. -/
inductive NodeKind where
  | heading (level : Nat)
  | paragraph
  | blockQuote
  | list
  | listItem
  | code (style : CodeStyle) (lang info : Option String) (value : String)
  | html (value : String)
  | thematicBreak
  | yaml (value : String)
  | toml (value : String)
  | table
  | tableRow
  | tableCell
  | definition
  | footnoteDefinition
  | math (value : String)
  | text (value : String)
  | inlineCode (value : String)
  | emphasis
  | strong
  | strikethrough
  | link
  | image
  | lineBreak
  | linkReference
  | imageReference
  | footnoteReference
  | inlineMath (value : String)
  | other
  deriving DecidableEq, Repr

/-- A construct, where it stands in the source, and the constructs inside it. -/
structure Node where
  kind : NodeKind
  position : Option Position
  children : List Node
  deriving Repr

end DocLint.Markdown
