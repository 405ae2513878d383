import DocLint.Text.Line

/-!
# Reading one line after the other

A reader of lines keeps a text and the place in it where its next line starts. It cuts each line out of the
text by byte offsets. After the last line it has nothing more to give.
-/

namespace DocLint

set_option autoImplicit false

/-- A reader of the physical lines of a text. -/
structure LineReader where
  source : String
  /-- The byte offset at which the next line starts. -/
  offset : Nat
  /-- Whether the last line has been read. -/
  done : Bool
  deriving DecidableEq, Repr

namespace LineReader

/-- A reader that has not read anything. The empty text has no line. -/
def ofText (source : String) : LineReader :=
  ⟨source, 0, source == ""⟩

def endsLine (c : Char) : Bool :=
  c == '\r' || c == '\n'

/-- The terminator at the begin of a text that begins with one. -/
def terminatorOf : List Char → Terminator
  | '\r' :: '\n' :: _ => .crlf
  | '\r' :: _ => .cr
  | _ => .lf

/-- The next line, if there is one, and the reader after it. There is neither when the text would be cut
inside of a character. -/
def next (r : LineReader) : Option (Option PhysicalLine × LineReader) :=
  if r.done then some (none, r)
  else do
    let rest ← Text.dropBytes r.offset r.source.toList
    match Text.findOffset? endsLine rest with
    | some n =>
      let chars ← Text.takeBytes n rest
      let t := terminatorOf (← Text.dropBytes n rest)
      return (some ⟨r.offset, chars, some t⟩, { r with offset := r.offset + n + t.size })
    | none => return (some ⟨r.offset, rest, none⟩, { r with done := true })

/-- What a reader gives when it is asked for the next line so many times. -/
def read (r : LineReader) : Nat → Option (List (Option PhysicalLine))
  | 0 => some []
  | n + 1 => do
    let (line, r) ← r.next
    let lines ← read r n
    return line :: lines

end LineReader

end DocLint
