import DocLint.Markdown.Draft
import DocLint.Markdown.Inline.Attention
import DocLint.Markdown.Inline.Tag

/-!
# Reading a text

A text is read from left to right. Opening brackets are kept with the pieces before them until a
closing bracket shows whether they begin a link, an image or a footnote; those left over are
characters. White space around line endings is dropped, unless two spaces make a hard break.
-/

namespace DocLint.Markdown

set_option autoImplicit false

/-- What a text is read with: the source around it, the labels of the document, and whether it is a
cell of a table. -/
structure TextContext where
  source : List Char
  labels : Labels
  inTable : Bool

/-- What an opening bracket may begin. -/
inductive BracketKind where
  | link
  | image
  | footnote
  deriving DecidableEq, Repr

/-- An opening bracket whose closing one is not known yet. -/
structure Bracket where
  kind : BracketKind
  /-- Whether it may still become a link: not if it would contain one. -/
  active : Bool
  cells : List Cell
  /-- The cells that follow it. -/
  content : List Cell
  /-- The pieces before it, newest first. -/
  before : List Piece

/-- A text while it is being read. -/
structure TextScan where
  /-- The pieces since the last open bracket, newest first. -/
  pieces : List Piece
  /-- The open brackets, innermost first. -/
  brackets : List Bracket
  previous : Option Char
  /-- Whether the last piece is an escaped character. -/
  escaped : Bool
  /-- The letters that are left of openings of character data which came to nothing. What counts
  characters next goes on from there. -/
  used : Nat

namespace TextScan

/-- Nothing read. -/
def empty : TextScan :=
  ⟨[], [], none, false, 0⟩

/-- Adds pieces made of the cells that end with `last`. -/
def add (s : TextScan) (pieces : List Piece) (last : Option Cell) : TextScan :=
  { s with
    pieces := pieces.reverse ++ s.pieces
    previous := (last.map Cell.char).orElse fun _ => s.previous
    escaped := false }

/-- Gives up the innermost open bracket: it is characters. -/
def loosen (s : TextScan) (b : Bracket) (rest : List Bracket) : TextScan :=
  { s with pieces := s.pieces ++ (b.cells.map Piece.char).reverse ++ b.before, brackets := rest }

end TextScan

/-- Gives up all open brackets. -/
def loosenAll (pieces : List Piece) : List Bracket → List Piece
  | [] => pieces
  | b :: rest => loosenAll (pieces ++ (b.cells.map Piece.char).reverse ++ b.before) rest

/-- A piece that is a complete node of some cells. -/
def nodePiece (kind : NodeKind) (cells : List Cell) (children : List Node) : Piece :=
  .node ⟨kind, some (positionOf cells), children⟩

/-- The character before a byte offset, given the last one passed. -/
def charBefore? (offset : Nat) (last : Option Char) : List Char → Option Char
  | [] => last
  | c :: rest => if offset = 0 then last else charBefore? (offset - c.utf8Size) (some c) rest

/-- The character at a byte offset. -/
def charAt? (offset : Nat) : List Char → Option Char
  | [] => none
  | c :: rest => if offset = 0 then some c else charAt? (offset - c.utf8Size) rest

/-! ## Code -/

/-- Finds the run of exactly `size` backticks that closes code: the number of cells before it. `run`
backticks stand directly before. -/
def closingTicks? (size run n : Nat) : List Cell → Option Nat
  | [] => if run = size then some (n - run) else none
  | c :: rest =>
    if c.char == '`' then closingTicks? size (run + 1) (n + 1) rest
    else if run = size then some (n - run)
    else closingTicks? size 0 (n + 1) rest

/-- Replaces escaped pipes by pipes. -/
def unescapePipes : List Char → List Char
  | '\\' :: '|' :: rest => '|' :: unescapePipes rest
  | c :: rest => c :: unescapePipes rest
  | [] => []

/-- Drops a space from both ends of code that holds anything but spaces. -/
def trimCode (cs : List Char) : List Char :=
  if 2 < Text.byteLength cs && cs.head? == some ' ' && cs.getLast? == some ' ' &&
      cs.any (· != ' ') then
    (cs.drop 1).dropLast
  else
    cs

/-- Reads code: its piece and the number of cells. `used` backticks count as read before it. -/
def readCode (ctx : TextContext) (used : Nat) (cells : List Cell) : Option (Piece × Nat) :=
  let size := (cells.takeWhile (·.char == '`')).length
  let after := cells.drop size
  (closingTicks? (used + size) 0 0 after).map fun n =>
    let value := textOf (after.take n)
    let value := trimCode (if ctx.inTable then unescapePipes value else value)
    let length := size + n + used + size
    (nodePiece (.inlineCode (String.ofList value)) (cells.take length) [], length)

/-! ## Links -/

/-- The limit of nested parentheses in the destination of a link. -/
def resourceLimit : Nat := 32

/-- Whether white space or a line ending comes next. -/
def atSpace : List Cell → Bool
  | c :: _ => c.isBlank || c.isEol
  | [] => false

/-- What follows a closing parenthesis. -/
def afterParenthesis? : List Cell → Option (List Cell)
  | c :: rest => if c.char == ')' then some rest else none
  | [] => none

/-- Reads the destination and title of a link after their opening parenthesis; `used` more parentheses
count as open. -/
def resource? (used : Nat) (cells : List Cell) : Option (List Cell) :=
  let start := dropBlanksEol cells
  match afterParenthesis? start with
  | some rest => some rest
  | none =>
    (destination? (some resourceLimit) used start).bind fun rest =>
      let next := dropBlanksEol rest
      let opensTitle := match next with
        | c :: _ => c.char == '"' || c.char == '\'' || c.char == '('
        | [] => false
      if atSpace rest && opensTitle then
        (title? next).bind fun rest => afterParenthesis? (dropBlanksEol rest)
      else
        afterParenthesis? next

/-- How a label is resolved, and the cells after it. -/
inductive LabelEnd where
  | resource (rest : List Cell)
  | reference (rest : List Cell)

/-- Reads what follows a label: its destination, another label, or nothing, when `defined` tells that
the label itself is defined. A label before a bracket that makes no reference is none either. -/
def labelEnd? (ctx : TextContext) (used : Nat) (defined : Bool) (rest : List Cell) : Option LabelEnd :=
  let shortcut := if defined then some (LabelEnd.reference rest) else none
  match rest with
  | c :: after =>
    if c.char == '(' then
      match resource? used after with
      | some rest => some (.resource rest)
      | none => shortcut
    else if c.char == '[' then
      match label? used rest with
      | some (label, rest) =>
        if ctx.labels.definitions.contains (normalizeLabel (sourceOf ctx.source label)) then
          some (.reference rest)
        else
          none
      | none =>
        match after with
        | d :: rest => if defined && d.char == ']' then some (.reference rest) else none
        | [] => none
    else
      shortcut
  | [] => shortcut

/-- How many of `used` characters are left after what follows a label: none when that is another label or
a destination without angle brackets. -/
def labelEndUsed (used : Nat) : List Cell → Nat
  | c :: rest =>
    if c.char == '[' then 0
    else if c.char == '(' then
      match dropBlanksEol rest with
      | d :: _ => if isControl d.char || d.char == ' ' || d.char == ')' || d.char == '<' then used else 0
      | [] => used
    else used
  | [] => used

/-- Deactivates the brackets around a link. -/
def deactivate (brackets : List Bracket) : List Bracket :=
  brackets.map fun b => if b.kind = .image then b else { b with active := false }

/-- Reads a closing bracket and what belongs to it. `close` is the bracket, `rest` the cells after it. -/
def readLabelEnd (ctx : TextContext) (s : TextScan) (close : Cell) (rest : List Cell) :
    TextScan × List Cell :=
  match s.brackets with
  | [] => (s.add [.char close] (some close), rest)
  | b :: outer =>
    let fail : TextScan × List Cell :=
      ((s.loosen b outer).add [.char close] (some close), rest)
    if !b.active then
      fail
    else
      let label := b.content.take (b.content.length - rest.length - 1)
      let id := normalizeLabel (sourceOf ctx.source label)
      let finish (make : List Cell → Piece) (outer : List Bracket) (rest : List Cell) :
          TextScan × List Cell :=
        let inside := b.content.take (b.content.length - rest.length)
        let s := { s with pieces := b.before, brackets := outer }
        (s.add [make (b.cells ++ inside)] inside.getLast?, rest)
      if b.kind = .footnote && ctx.labels.footnotes.contains id then
        finish (fun cells => nodePiece .footnoteReference cells []) (deactivate outer) rest
      else
        let caret := (b.cells.drop 1).map Piece.char
        let id := if b.kind = .footnote then '^' :: id else id
        let count (result : TextScan × List Cell) : TextScan × List Cell :=
          ({ result.1 with used := labelEndUsed s.used rest }, result.2)
        match labelEnd? ctx s.used (ctx.labels.definitions.contains id) rest with
        | none => count fail
        | some found =>
          let (direct, rest) := match found with
            | .resource rest => (true, rest)
            | .reference rest => (false, rest)
          if b.kind = .image then
            let kind := if direct then NodeKind.image else .imageReference
            count (finish (fun cells => nodePiece kind cells []) outer rest)
          else
            let kind := if direct then NodeKind.link else .linkReference
            count (finish (fun cells => nodePiece kind cells (nodesOf true (caret ++ s.pieces.reverse)))
              (deactivate outer) rest)

/-! ## Line endings -/

/-- The character that counts as the one before a further line, which follows the line ending `eol`: of the
prefixes in front of it only a quote marker does, anything else is white space. -/
def beforeLine (ctx : TextContext) (eol : Cell) (cells : List Cell) : Option Char :=
  let prefixed := cells.head?.filter fun c => c.lead = 0 && eol.stop < c.offset
  let before := prefixed.bind fun c => charBefore? c.offset none ctx.source
  if before == some '>' then before else some '\n'

/-- Ends a line: white space before the line ending is dropped; two spaces or more make a hard break.
`previous` counts as the character before the next line. -/
def endLine (s : TextScan) (eol : Cell) (previous : Option Char) : TextScan :=
  let blanks := s.pieces.takeWhile Piece.isBlank
  let pieces := s.pieces.drop blanks.length
  let piece :=
    match blanks.getLast? with
    | some (.char first) =>
      if 2 ≤ blanks.length && blanks.all Piece.isSpace then nodePiece .lineBreak [first, eol] []
      else .eol eol
    | _ => .eol eol
  { s with pieces := piece :: pieces, previous, escaped := false }

/-- Skips white space at the begin of a line. Where that begins inside a tab, the last character of it is
kept as a margin. -/
def startLine (s : TextScan) (cells : List Cell) : TextScan × List Cell :=
  let rest := dropBlanks cells
  let blanks := cells.take (cells.length - rest.length)
  match blanks.head?, blanks.getLast? with
  | some first, some last =>
    let s := { s with previous := some ' ' }
    if first.lead = 0 then (s, rest)
    else
      let whole : Cell := { last with text := [if last.lead = 0 then last.char else '\t'] }
      ({ s with pieces := .margin whole :: s.pieces }, rest)
  | _, _ => (s, rest)

/-! ## The whole text -/

/-- Whether a text is a cell of a table and ends directly before a pipe. -/
def endsAtPipe (ctx : TextContext) (cells : List Cell) : Bool :=
  ctx.inTable && (cells.getLast?.bind fun last => charAt? last.stop ctx.source) == some '|'

/-- The cells up to the first white space and that. An address without marks does not reach further. -/
def firstWord (cells : List Cell) : List Cell :=
  cells.take ((cells.takeWhile fun c => !c.isBlank && !c.isEol).length + 1)

/-- Reads the next part of a text, which begins with `c`. -/
def readPiece (ctx : TextContext) (s : TextScan) (c : Cell) (rest : List Cell) :
    TextScan × List Cell :=
  let cells := c :: rest
  let plain : TextScan × List Cell := (s.add [.char c] (some c), rest)
  let taken (n : Nat) (piece : Piece) : TextScan × List Cell :=
    (s.add [piece] (cells.take n).getLast?, cells.drop n)
  let bracket (kind : BracketKind) (n : Nat) : TextScan × List Cell :=
    let b : Bracket := ⟨kind, true, cells.take n, cells.drop n, s.pieces⟩
    ({ s with pieces := [], brackets := b :: s.brackets,
              previous := (cells.take n).getLast?.map Cell.char, escaped := false }, cells.drop n)
  let address (n : Nat) : TextScan × List Cell :=
    let link := cells.take n
    (s.add [.node (addressNode link link)] link.getLast?, cells.drop n)
  let next := rest.head?.map Cell.char
  let unused (result : TextScan × List Cell) : TextScan × List Cell :=
    ({ result.1 with used := 0 }, result.2)
  if c.isEol then
    startLine (endLine s c (beforeLine ctx c rest)) rest
  else if c.char == '!' then
    if next == some '[' && (rest.drop 1).head?.map Cell.char != some '^' then bracket .image 2
    else plain
  else if c.char == '&' then
    match readReference s.used (chars rest) with
    | some (value, n) => unused (taken (n + 1) (.literal value (positionOf (cells.take (n + 1)))))
    | none => unused plain
  else if isAttention c.char then
    let run := cells.takeWhile (·.char == c.char)
    let before := charBefore? c.offset none ctx.source
    let after := run.getLast?.bind fun last => charAt? last.stop ctx.source
    taken run.length (.run (Delimiter.ofCells c.char run before after))
  else if c.char == '<' then
    match autolinkLength? s.used (chars cells) with
    | some n =>
      let link := cells.take n
      unused (taken n (.node (addressNode link ((link.drop 1).dropLast))))
    | none =>
      let used := autolinkUsed s.used (chars cells)
      let (s, rest) := match tagLength? used (chars cells) with
        | some n =>
          let html := cells.take n
          taken n (nodePiece (.html (String.ofList (htmlText false html))) html [])
        | none => plain
      ({ s with used := cdataUsed used (chars cells) }, rest)
  else if c.char == 'h' || c.char == 'H' then
    let word := chars (firstWord cells)
    let result := match protocolLength? (endsAtPipe ctx cells) s.used s.previous word with
      | some n => address n
      | none => plain
    if (protocol? s.previous word).isSome then unused result else result
  else if c.char == 'w' || c.char == 'W' then
    let word := chars (firstWord cells)
    let result := match wwwLength? (endsAtPipe ctx cells) s.used s.previous word with
      | some n => address n
      | none => plain
    if s.previous.all precedesWww then unused result else result
  else if c.char == '[' then
    if next == some '^' then bracket .footnote 2 else bracket .link 1
  else if c.char == ']' then
    readLabelEnd ctx s c rest
  else if c.char == '\\' then
    match rest with
    | d :: after =>
      if d.isEol then
        startLine { s with pieces := nodePiece .lineBreak [c, d] [] :: s.pieces,
                           previous := beforeLine ctx d after, escaped := false } after
      else if isAsciiPunctuation d.char then
        let (s, rest) := taken 2 (.literal d.text ⟨d.start, d.finish⟩)
        ({ s with escaped := true }, rest)
      else
        plain
    | [] => plain
  else if c.char == '`' && (s.previous != some '`' || s.escaped) then
    match readCode ctx s.used cells with
    | some (piece, n) => unused (taken n piece)
    | none => unused plain
  else
    plain
where
  /-- The value of HTML in text: white space at the begin of its further lines is dropped. -/
  htmlText (fresh : Bool) : List Cell → List Char
    | [] => []
    | c :: rest =>
      if fresh && c.isBlank then htmlText true rest
      else c.text ++ htmlText c.isEol rest

/-- Reads a text; every part takes a cell, so their number bounds the steps. -/
def readPieces (ctx : TextContext) : Nat → TextScan → List Cell → TextScan
  | 0, s, _ => s
  | _, s, [] => s
  | fuel + 1, s, c :: rest =>
    let (s, rest) := readPiece ctx s c rest
    readPieces ctx fuel s rest

/-- The mark of a task at the begin of an item: the number of its cells. White space and more text have
to follow. -/
def taskMark? : List Cell → Option Nat
  | a :: b :: c :: rest =>
    if a.char == '[' && c.char == ']' &&
        (b.isBlank || b.isEol || b.char == 'x' || b.char == 'X') then
      match rest with
      | d :: _ =>
        if d.isEol then some 3
        else if d.isBlank && !(dropBlanks rest).isEmpty then some 3
        else none
      | [] => none
    else
      none
  | _ => none

/-- Reads the nodes of a text that begins with the scan `s`. -/
def readNodes (ctx : TextContext) (s : TextScan) (cells : List Cell) : List Node :=
  let s := readPieces ctx cells.length s cells
  nodesOf false (loosenAll (s.pieces.dropWhile Piece.isBlank) s.brackets).reverse

/-- Reads the nodes of a text. -/
def readText (ctx : TextContext) (cells : List Cell) : List Node :=
  let (s, rest) := startLine TextScan.empty cells
  readNodes ctx s rest

/-- Drops the white space between the mark of a task and its text, one space or line ending, and tells
where the paragraph begins then. Where no text but a line break follows the mark, that is still at `start`. -/
def dropTaskSpace (start : Point) : List Node → Point × List Node
  | ⟨.text value, some p, children⟩ :: rest =>
    let (start, more) : Point × List Char := match value.toList with
      | '\r' :: '\n' :: more => (⟨p.start.line + 1, p.start.offset + 2⟩, more)
      | '\r' :: more | '\n' :: more => (⟨p.start.line + 1, p.start.offset + 1⟩, more)
      | _ :: more => (⟨p.start.line, p.start.offset + 1⟩, more)
      | [] => (p.start, [])
    (start,
      if more.isEmpty then rest
      else ⟨.text (String.ofList more), some ⟨start, p.stop⟩, children⟩ :: rest)
  | nodes => (start, nodes)

/-- Reads a paragraph that may begin with the mark of a task, which makes no node. At the begin of an item
(`leads`) neither the mark nor the space after it is part of the paragraph. -/
def readTaskParagraph (ctx : TextContext) (leads : Bool) (position : Position) (cells : List Cell) :
    Position × List Node :=
  match taskMark? cells with
  | some n =>
    let nodes := readNodes ctx { TextScan.empty with previous := some ']' } (cells.drop n)
    if leads then
      let (start, nodes) := dropTaskSpace position.start nodes
      (⟨start, position.stop⟩, nodes)
    else
      (position, nodes)
  | none => (position, readText ctx cells)

end DocLint.Markdown
