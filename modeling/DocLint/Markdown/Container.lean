import DocLint.Markdown.Block
import DocLint.Markdown.CharacterReference

/-!
# The prefixes of containers

A line belongs to a container when it opens with the container's prefix: a quote marker, the
indentation of a list item or of a footnote. Before the rest of the line is read, further prefixes
may open new containers.
-/

namespace DocLint.Markdown

set_option autoImplicit false

/-- Whether a rest of a line is a break between two parts: three or more equal markers, apart from
white space. -/
def isThematicBreak (cells : List Cell) : Bool :=
  match afterIndent? cells with
  | some (c :: rest) =>
    (c.char == '*' || c.char == '-' || c.char == '_') &&
      (let marks := (c :: rest).filter (!·.isBlank)
       marks.all (·.char == c.char) && 3 ≤ marks.length)
  | _ => false

/-- What follows a quote marker and at most one column of white space. -/
def quotePrefix? (cells : List Cell) : Option (List Cell) :=
  match afterIndent? cells with
  | some (c :: rest) => if c.char == '>' then some (takeBlanks 1 rest).2 else none
  | _ => none

/-- What follows the marker of a list item, with the marker and its columns. Where the item would end
a paragraph (`interrupt`), an ordered one has to have the number one. -/
def itemMarker? (interrupt : Bool) (cells : List Cell) : Option (Char × List Cell) :=
  match afterIndent? cells with
  | some (c :: rest) =>
    if c.char == '*' || c.char == '-' then
      if isThematicBreak (c :: rest) then none else some (c.char, rest)
    else if c.char == '+' then
      some (c.char, rest)
    else
      let (digits, after) := spanCells isAsciiDigit (c :: rest)
      match digits, after with
      | d :: more, m :: rest =>
        if (m.char == '.' || m.char == ')') && digits.length < 10 &&
            (!interrupt || (d.char == '1' && more.isEmpty)) then
          some (m.char, rest)
        else
          none
      | _, _ => none
  | _ => none

/-- Opens a list item: the container and what follows its prefix. An item whose first line is blank
does not end a paragraph. A line ending of two characters directly after the marker makes the prefix of
such an item larger (`wide`). -/
def itemPrefix? (interrupt wide : Bool) (cells : List Cell) : Option (ContainerKind × List Cell) :=
  (itemMarker? interrupt cells).bind fun (marker, rest) =>
    let finish (blank : Bool) (rest : List Cell) :=
      let size := sizeOfCells (cells.take (cells.length - rest.length))
      let more := if blank then (if wide && rest.isEmpty then 2 else 1) else 0
      (ContainerKind.listItem marker (size + more) blank, rest)
    if allBlank rest then
      if interrupt then none else some (finish true rest)
    else
      let (space, after) := takeBlanks tabStop rest
      match space, after with
      | [], _ => none
      | _, c :: _ => some (finish false (if c.isBlank then (takeBlanks 1 rest).2 else after))
      | _, [] => none

/-- Reads the label of a footnote up to its bracket: at most `fuel` bytes without white space or an
opening bracket. -/
def footnoteLabel? (fuel : Nat) (taken : List Cell) : List Cell → Option (List Cell × List Cell)
  | [] => none
  | c :: rest =>
    if c.char == ']' then
      if taken.isEmpty then none else some (taken.reverse, rest)
    else if c.isBlank || c.isEol || c.char == '[' || fuel < c.char.utf8Size then
      none
    else if c.char == '\\' then
      match rest with
      | e :: after =>
        if e.char == '[' || e.char == '\\' || e.char == ']' then
          if fuel < 2 then none else footnoteLabel? (fuel - 2) (e :: c :: taken) after
        else
          footnoteLabel? (fuel - 1) (c :: taken) (e :: after)
      | [] => none
    else
      footnoteLabel? (fuel - c.char.utf8Size) (c :: taken) rest

/-- The greatest length of a label in bytes. -/
def labelLimit : Nat := 999

/-- Opens the definition of a footnote: the container and what follows its prefix. -/
def footnotePrefix? (cells : List Cell) : Option (ContainerKind × List Cell) :=
  match afterIndent? cells with
  | some (open' :: caret :: rest) =>
    if open'.char == '[' && caret.char == '^' then
      match footnoteLabel? labelLimit [] rest with
      | some (label, colon :: rest) =>
        if colon.char == ':' then
          some (.footnoteDefinition (textOf label), dropBlanks rest)
        else
          none
      | _ => none
    else
      none
  | _ => none

/-- Opens a container: its kind and what follows its prefix. `wide` tells that the line has an ending of two
characters. -/
def openContainer? (interrupt wide : Bool) (cells : List Cell) : Option (ContainerKind × List Cell) :=
  match quotePrefix? cells with
  | some rest => some (.blockQuote, rest)
  | none =>
    match itemPrefix? interrupt wide cells with
    | some found => some found
    | none => footnotePrefix? cells

/-- What follows exactly `n` columns of white space. -/
def afterColumns? (n : Nat) (cells : List Cell) : Option (List Cell) :=
  let (taken, rest) := takeBlanks n cells
  if taken.length = n then some rest else none

/-- Whether a line goes on with an open container: the container as it is then, and what follows its
prefix. A blank line goes on with an item, but not with one that began with a blank line. -/
def continueContainer? (kind : ContainerKind) (cells : List Cell) :
    Option (ContainerKind × List Cell) :=
  match kind with
  | .blockQuote => (quotePrefix? cells).map fun rest => (kind, rest)
  | .listItem marker size blankInitial =>
    if allBlank cells then
      if blankInitial then none else some (kind, (takeBlanks size cells).2)
    else
      (afterColumns? size cells).map fun rest => (.listItem marker size false, rest)
  | .footnoteDefinition _ =>
    if allBlank cells then
      some (kind, (takeBlanks tabStop cells).2)
    else
      (afterColumns? tabStop cells).map fun rest => (kind, rest)

end DocLint.Markdown
