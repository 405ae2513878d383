import DocLint.Text.Blank
import DocLint.Text.Utf8
import DocLint.Token.Kind

/-!
# Tokens

A token is a construct of a document: its type, the lines and bytes it covers, what it holds, and the
tokens inside it.
-/

namespace DocLint

set_option autoImplicit false

/-- A range of bytes, its end excluded. -/
structure Span where
  start : Nat
  stop : Nat
  deriving DecidableEq, Inhabited, Repr

namespace Span

/-- The number of bytes of a span whose end does not lie before its start. -/
def length? (s : Span) : Option Nat :=
  if s.start ≤ s.stop then some (s.stop - s.start) else none

/-- Whether a span starts where it ends. -/
def isEmpty (s : Span) : Bool :=
  s.start == s.stop

/-- Whether an offset lies in a span. -/
def contains (s : Span) (offset : Nat) : Bool :=
  s.start ≤ offset && offset < s.stop

/-- The text of a span, if it begins and ends between characters of the source. -/
def slice? (s : Span) (source : String) : Option String :=
  Text.slice? source s.start s.stop

end Span

/-- A construct of a document. -/
structure Token where
  type : TokenType
  /-- The first line, counted from one. -/
  line : Nat
  endLine : Nat
  span : Span
  content : String
  /-- What is written after the opening fence of code. -/
  info : String
  children : List Token
  deriving Inhabited, Repr

namespace Token

/-- Whether a line lies between the first and the last line of a token. -/
def coversLine (t : Token) (line : Nat) : Bool :=
  t.line ≤ line && line ≤ t.endLine

/-- The language of code: the first word of its information. -/
def language? (t : Token) : Option String :=
  Text.firstWord? t.info

end Token

end DocLint
