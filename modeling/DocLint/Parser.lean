import DocLint.PlainText
import DocLint.Text.Ascii
import DocLint.Token.OfTree

/-!
# Parsers

A rule names the kind of parser whose tokens it reads. A parser of a kind turns a source into tokens,
or rejects it.
-/

namespace DocLint

set_option autoImplicit false

inductive ParserKind where
  | markdown
  | text
  deriving DecidableEq, Repr

/-- Why a source has no tokens. -/
inductive ParseError where
  /-- The source is invalid, at a byte offset if that is known. -/
  | invalidSource (message : String) (offset : Option Nat)
  | internal (message : String)
  deriving DecidableEq, Repr

/-- The text of an error. -/
def ParseError.message : ParseError → String
  | invalidSource m _ => "Invalid source: " ++ m
  | internal m => "Internal parser error: " ++ m

namespace ParserKind

def name : ParserKind → String
  | markdown => "markdown"
  | text => "text"

/-- The place of a kind among the kinds. -/
def rank : ParserKind → Nat
  | markdown => 0
  | text => 1

/-- The kind with a given name, in any case. -/
def ofName (s : String) : Except ParseError ParserKind :=
  let lower := Text.asciiLower s
  if lower == "markdown" || lower == "markdownit" then .ok markdown
  else if lower == "text" then .ok text
  else .error (.internal ("unknown parser '" ++ lower ++ "'"))

/-- The extensions of the files that a parser of a kind handles. -/
def extensions : ParserKind → List String
  | markdown => ["md", "markdown", "mdown", "mkdn", "mkd"]
  | text => ["txt", "text"]

/-- The names under which a kind is written in data, exactly as they are spelled there. -/
def choices : List (String × ParserKind) :=
  [("markdown", markdown), ("markdownit", markdown), ("text", text)]

/-- Whether a parser of a kind handles files with an extension. -/
def canParse (kind : ParserKind) (extension : String) : Bool :=
  kind.extensions.any fun e => Text.eqIgnoreCase e extension

end ParserKind

/-- Rejects a source with a NUL character. -/
def checkSource (source : String) : Except ParseError Unit :=
  match Text.findOffset? (· == '\x00') source.toList with
  | some offset => .error (.invalidSource "source contains a NUL byte" (some offset))
  | none => .ok ()

/-- The tokens of a source, with the kind of the parser that made them. -/
structure TokenStream where
  parser : ParserKind
  tokens : List Token
  deriving Repr

/-- A parser: its kind, and what it makes of a source. -/
structure Parser where
  kind : ParserKind
  parse : String → Except ParseError TokenStream

namespace Parser

def markdown : Parser :=
  ⟨.markdown, fun source => do
    checkSource source
    return ⟨.markdown, tokensOf source (Markdown.readDocument source)⟩⟩

def plainText : Parser :=
  ⟨.text, fun source => do
    checkSource source
    return ⟨.text, PlainText.tokens source⟩⟩

/-- The parsers that come with the library. -/
def builtin : List Parser :=
  [markdown, plainText]

/-- The parser of a kind that comes with the library. -/
def ofKind : ParserKind → Parser
  | .markdown => markdown
  | .text => plainText

end Parser

end DocLint
