import DocLint.LineIndex
import DocLint.Parser

/-!
# Documents

What a rule sees of a document: its name, its lines, and the tokens that a parser made of it.
-/

namespace DocLint

set_option autoImplicit false

/-- A document as one parser reads it. -/
structure Document where
  name : String
  /-- The texts of the lines. -/
  lines : List String
  /-- The parser that made the tokens. -/
  parser : ParserKind
  tokens : List Token
  deriving Repr

namespace Document

/-- A source with the tokens that a parser made of it. -/
def ofSource (name source : String) (stream : TokenStream) : Document :=
  ⟨name, splitLines source, stream.parser, stream.tokens⟩

/-- The number of lines. -/
def lineCount (d : Document) : Nat :=
  d.lines.length

/-- The text of a line, counted from one. -/
def lineText? (d : Document) (number : Nat) : Option String :=
  if number = 0 then none else d.lines[number - 1]?

/-- What every line belongs to. -/
def index (d : Document) : LineIndex :=
  LineIndex.build d.lines d.tokens

end Document

end DocLint
