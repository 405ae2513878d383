import DocLint.Markdown.Inline.Piece

/-!
# Emphasis

Runs of asterisks, underscores and tildes open and close emphasis. A closing run is matched with the
nearest run before it that fits, and takes two markers from both if both have them. What lies between
cannot be matched with anything outside any more.
-/

namespace DocLint.Markdown

set_option autoImplicit false

/-- The runs of markers. -/
def isAttention (c : Char) : Bool :=
  c == '*' || c == '_' || c == '~'

/-- A run of markers with the characters around it. Underscores inside a word neither open nor close. -/
def Delimiter.ofCells (marker : Char) (cells : List Cell) (before after : Option Char) : Delimiter :=
  let b := classOf before
  let a := classOf after
  let beside (c : Option Char) : Bool := marker != '~' && c.any isAttention
  let opens := a == .other || (a == .punctuation && b != .other) || beside after
  let closes := b == .other || (b == .punctuation && a != .other) || beside before
  if marker == '_' then
    ⟨marker, cells, opens && (b != .other || !closes), closes && (a != .other || !opens)⟩
  else
    ⟨marker, cells, opens, closes⟩

/-- Whether a closing run can be matched with an opening one. Where either could do both, their sizes
must not add up to a multiple of three, unless the closing one's is one. Tildes have to be as many on
both sides, and at most two. -/
def Delimiter.fits (opening closing : Delimiter) : Bool :=
  let m := opening.cells.length
  let n := closing.cells.length
  opening.opens && opening.marker == closing.marker &&
    !((opening.closes || closing.opens) && n % 3 != 0 && (m + n) % 3 == 0) &&
    !(closing.marker == '~' && (m != n || 2 < n))

/-- Finds the nearest run in front that fits: the pieces between, in order, the run, and the pieces
before it, nearest first. `between` are the pieces passed over. -/
def findOpening (closing : Delimiter) (between : List Piece) :
    List Piece → Option (List Piece × Delimiter × List Piece)
  | [] => none
  | .run opening :: rest =>
    if opening.fits closing then some (between, opening, rest)
    else findOpening closing (.run opening :: between) rest
  | piece :: rest => findOpening closing (piece :: between) rest

/-- The kind of node that markers make. -/
def spanKind (marker : Char) (taken : Nat) : NodeKind :=
  if marker == '~' then .strikethrough else if taken = 1 then .emphasis else .strong

/-- A run, unless no marker is left of it. -/
def Delimiter.pieces (d : Delimiter) : List Piece :=
  if d.cells.isEmpty then [] else [.run d]

/-- Matches a closing run with the pieces before it, nearest first, as long as it has markers: at most
`fuel` times. -/
def closeRun : Nat → Delimiter → List Piece → List Piece
  | 0, closing, done => closing.pieces ++ done
  | fuel + 1, closing, done =>
    match findOpening closing [] done with
    | none => closing.pieces ++ done
    | some (between, opening, rest) =>
      let taken := if 1 < opening.cells.length && 1 < closing.cells.length then 2 else 1
      let left := opening.cells.take (opening.cells.length - taken)
      let first := opening.cells.drop (opening.cells.length - taken)
      let last := closing.cells.take taken
      match first.head?, last.getLast? with
      | some a, some b =>
        let span := Piece.span (spanKind closing.marker taken) ⟨a.start, b.finish⟩
          (between.flatMap Piece.unmatched)
        closeRun fuel { closing with cells := closing.cells.drop taken }
          (span :: ({ opening with cells := left } : Delimiter).pieces ++ rest)
      | _, _ => closing.pieces ++ done

/-- Matches the runs of a text: `done` are the pieces before, nearest first. -/
def matchRuns (done : List Piece) : List Piece → List Piece
  | [] => done.reverse.flatMap Piece.unmatched
  | .run d :: rest =>
    matchRuns (if d.closes then closeRun d.cells.length d done else .run d :: done) rest
  | piece :: rest => matchRuns (piece :: done) rest

/-- The nodes of a text. Inside a link, mail addresses are no links. -/
def nodesOf (inLink : Bool) (pieces : List Piece) : List Node :=
  let pieces := settleMargins (matchRuns [] pieces)
  nodesFrom none (if inLink then pieces else withMail [] (linkMail pieces))

end DocLint.Markdown
