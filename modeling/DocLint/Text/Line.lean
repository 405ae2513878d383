import DocLint.Text.Utf8

/-!
# Physical lines

`\r\n`, a lone `\r` and `\n` all end a line. Parsers and the rule engine read the same lines, so
line numbers agree everywhere. A terminator at the very end opens one more, empty line; the empty
text has no lines.
-/

namespace DocLint

set_option autoImplicit false

/-- What ends a line. -/
inductive Terminator where
  | crlf
  | cr
  | lf
  deriving DecidableEq, Repr

def Terminator.chars : Terminator → List Char
  | .crlf => ['\r', '\n']
  | .cr => ['\r']
  | .lf => ['\n']

/-- The length of a terminator in bytes. -/
def Terminator.size : Terminator → Nat
  | .crlf => 2
  | .cr => 1
  | .lf => 1

structure PhysicalLine where
  /-- The byte offset of its first character. -/
  start : Nat
  /-- Its characters, without the terminator. -/
  chars : List Char
  /-- What ends it; the last line has none. -/
  terminator : Option Terminator
  deriving DecidableEq, Repr

namespace PhysicalLine

/-- The line's text without its terminator. -/
def text (line : PhysicalLine) : String :=
  String.ofList line.chars

/-- The byte offset just past the line's text. -/
def stop (line : PhysicalLine) : Nat :=
  line.start + Text.byteLength line.chars

end PhysicalLine

/-- The lines of a text whose current line starts at byte `start` and has the characters `pending`
so far, newest first. -/
def linesFrom (start : Nat) (pending : List Char) : List Char → List PhysicalLine
  | [] => [⟨start, pending.reverse, none⟩]
  | '\r' :: '\n' :: rest =>
    ⟨start, pending.reverse, some .crlf⟩ :: linesFrom (start + Text.byteLength pending + 2) [] rest
  | '\r' :: rest =>
    ⟨start, pending.reverse, some .cr⟩ :: linesFrom (start + Text.byteLength pending + 1) [] rest
  | '\n' :: rest =>
    ⟨start, pending.reverse, some .lf⟩ :: linesFrom (start + Text.byteLength pending + 1) [] rest
  | c :: rest => linesFrom start (c :: pending) rest

def physicalLines (source : String) : List PhysicalLine :=
  match source.toList with
  | [] => []
  | cs => linesFrom 0 [] cs

/-- The texts of the physical lines. -/
def splitLines (source : String) : List String :=
  (physicalLines source).map PhysicalLine.text

end DocLint
