import DocLint.Text.Blank
import DocLint.Text.Line
import DocLint.Token.Basic

/-!
# Plain text

A plain text is a sequence of paragraphs, each a run of lines that are not blank.
-/

namespace DocLint.PlainText

set_option autoImplicit false

/-- The begin of a paragraph whose lines are being collected, and the end of its last line. -/
structure OpenParagraph where
  start : Nat
  firstLine : Nat
  stop : Nat
  lastLine : Nat
  deriving DecidableEq, Repr

def OpenParagraph.token (source : String) (p : OpenParagraph) : Token :=
  let span : Span := ⟨p.start, p.stop⟩
  let content := (span.slice? source).getD ""
  { type := .paragraph
    line := p.firstLine
    endLine := p.lastLine
    span
    content
    info := ""
    children := [⟨.text, p.firstLine, p.lastLine, span, content, "", []⟩] }

/-- The paragraphs among lines that are numbered from `number` on, the first of them going on with
`open'`. -/
def paragraphsFrom (open' : Option OpenParagraph) (number : Nat) :
    List PhysicalLine → List OpenParagraph
  | [] => open'.toList
  | line :: rest =>
    if line.chars.all Text.isWhite then
      open'.toList ++ paragraphsFrom none (number + 1) rest
    else
      let p := match open' with
        | some p => { p with stop := line.stop, lastLine := number }
        | none => ⟨line.start, number, line.stop, number⟩
      paragraphsFrom (some p) (number + 1) rest

def tokens (source : String) : List Token :=
  (paragraphsFrom none 1 (physicalLines source)).map (OpenParagraph.token source)

end DocLint.PlainText
