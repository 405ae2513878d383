import DocLint.Markdown.Block

/-!
# Headings

A heading is a line that opens with up to six number signs, or lines of text with an underline.
-/

namespace DocLint.Markdown

set_option autoImplicit false

/-- The words of a heading's line: runs of characters that are no white space, where a run of number
signs after white space is apart from what follows it. Each comes with whether it is text. -/
def headingWords (cells : List Cell) : List (Bool × List Cell) :=
  go [] (dropBlanks cells)
where
  /-- `word` holds the cells of the current run, newest first. -/
  go (word : List Cell) : List Cell → List (Bool × List Cell)
    | [] => emit word
    | c :: rest =>
      if c.isBlank then
        emit word ++ go [] rest
      else if c.char != '#' && !word.isEmpty && word.all (·.char == '#') then
        emit word ++ go [c] rest
      else
        go (c :: word) rest
  emit (word : List Cell) : List (Bool × List Cell) :=
    if word.isEmpty then [] else [(!word.all (·.char == '#'), word.reverse)]

/-- The text of a heading: from its first word that is text to its last. -/
def headingText (cells : List Cell) : List Cell :=
  match (headingWords cells).filter (·.1) with
  | [] => []
  | (_, first) :: more =>
    let last := (more.getLast?.map (·.2)).getD first
    match first.head?, last.getLast? with
    | some a, some b => cells.filter fun c => a.offset ≤ c.offset && c.offset ≤ b.offset
    | _, _ => []

/-- A heading that opens with number signs: its level and its text. -/
def atxHeading? (cells : List Cell) : Option (Nat × List Cell) :=
  match afterIndent? cells with
  | some rest =>
    let (marks, after) := spanCells (· == '#') rest
    let closed := match after with
      | [] => true
      | c :: _ => c.isBlank
    if 1 ≤ marks.length && marks.length ≤ 6 && closed then
      some (marks.length, headingText after)
    else
      none
  | none => none

/-- Whether a rest of a line underlines a heading. -/
def isUnderline (cells : List Cell) : Bool :=
  match afterIndent? cells with
  | some (c :: rest) =>
    (c.char == '=' || c.char == '-') && allBlank ((c :: rest).dropWhile (·.char == c.char))
  | _ => false

end DocLint.Markdown
