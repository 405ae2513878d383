import DocLint.Markdown.Container
import DocLint.Markdown.Fence
import DocLint.Markdown.HtmlBlock
import DocLint.Markdown.Leaf
import DocLint.Markdown.Table

/-!
# The outline of a document

Lines are added to an outline one by one. A line first goes on with the open containers as far as it
can, then opens new ones; what remains of it goes on with the open leaf or begins another. Text that
merely continues a paragraph may leave out the prefixes of its containers.
-/

namespace DocLint.Markdown

set_option autoImplicit false

/-- The lines of an open leaf so far. -/
structure Run where
  start : Point
  /-- Where the text of its last line ends; if there is none, where the line after that begins. -/
  stop : Point
  /-- Where the line after that begins. -/
  after : Point
  cells : List Cell
  /-- Line endings after the last cell, which belong to the leaf only if it goes on. -/
  pending : List Cell
  deriving Repr

namespace Run

/-- A leaf that begins at `rest` on a line and has the given cells of it. -/
def begin (line : Line) (rest cells : List Cell) : Run :=
  ⟨pointAt line rest, line.stopPoint, line.nextPoint, cells, line.eolCells⟩

/-- Goes on with the given cells of a line, of which `rest` is left after the prefixes. A line without a
rest is part of the leaf only by its ending: if it has none, the leaf ends where the line begins. -/
def extend (run : Run) (line : Line) (rest cells : List Cell) : Run :=
  let after := if rest.isEmpty && line.eol.isNone then line.startPoint else line.nextPoint
  ⟨run.start, if rest.isEmpty then after else line.stopPoint, after,
    run.cells ++ run.pending ++ cells, line.eolCells⟩

/-- Goes on with another run. -/
def append (run next : Run) : Run :=
  ⟨run.start, next.stop, next.after, run.cells ++ run.pending ++ next.cells, next.pending⟩

/-- Passes over a blank line. -/
def skip (run : Run) (line : Line) : Run :=
  { run with pending := run.pending ++ line.eolCells }

/-- Where the run stands. -/
def position (run : Run) : Position :=
  ⟨run.start, run.stop⟩

end Run

/-- A leaf that the next line may go on with. -/
inductive OpenLeaf where
  /-- No leaf; `underlined` when the last line was the underline of a heading. -/
  | none (underlined : Bool)
  | content (run : Run) (attached : Bool)
  /-- A line of text that may be the head row of a table with `count` cells, after other text. -/
  | head (before : Option (Run × Bool)) (row : Run) (attached : Bool) (count : Nat)
  | table (rows : List TableLine) (stop : Point)
  | indented (run : Run)
  | fenced (fence : Fence) (run : Run)
  | html (kind : HtmlKind) (run : Run)
  deriving Repr

namespace OpenLeaf

/-- Text that turned out to be no head row. -/
def ofHead (before : Option (Run × Bool)) (row : Run) (attached : Bool) : OpenLeaf :=
  match before with
  | some (run, attached) => .content (run.append row) attached
  | .none => .content row attached

/-- Whether a line without the prefixes of its containers may go on with the leaf. -/
def accepts : OpenLeaf → Bool
  | none underlined => underlined
  | content _ _ => true
  | head .. => true
  | _ => false

/-- Whether the last line is text. -/
def isText : OpenLeaf → Bool
  | content _ _ => true
  | head .. => true
  | _ => false

/-- Whether the next line may be the underline of a heading. -/
def underlinable : OpenLeaf → Bool
  | none underlined => underlined
  | content _ _ => true
  | _ => false

/-- Whether the last line may be the head row of a table. -/
def isHead : OpenLeaf → Bool
  | head .. => true
  | _ => false

/-- Whether the last line may be the head row of a table and ends with a pipe. -/
def endsHeadWithPipe : OpenLeaf → Bool
  | head _ row _ _ => endsWithPipe row.cells
  | _ => false

/-- Whether no container may open while the leaf goes on. -/
def isConcrete : OpenLeaf → Bool
  | fenced .. => true
  | html .. => true
  | _ => false

/-- The block of indented code. -/
def indentedBlock (run : Run) : Block :=
  .leaf (.code .indented .none .none (codeValue run.cells)) run.position

/-- The block of fenced code with the given cells. -/
def fencedBlock (fence : Fence) (position : Position) (cells : List Cell) : Block :=
  .leaf (.code .fenced fence.lang fence.info (codeValue cells)) position

/-- The block that a leaf makes when it ends before the next line. -/
def blocks : OpenLeaf → List Block
  | none _ => []
  | content run attached => [.leaf (.content run.cells attached) run.position]
  | head before row attached _ =>
    match before with
    | some (run, attached) =>
      let run := run.append row
      [.leaf (.content run.cells attached) run.position]
    | .none => [.leaf (.content row.cells attached) row.position]
  | table rows stop =>
    match rows with
    | [] => []
    | row :: _ => [.leaf (.table rows) ⟨row.position.start, stop⟩]
  | indented run => [indentedBlock run]
  | fenced fence run => [fencedBlock fence run.position run.cells]
  | html _ run => [.leaf (.html (stringOf run.cells)) run.position]

/-- The block that a leaf makes when its container or the document ends: code and HTML that were not
closed reach to the next line. -/
def blocksAtEnd : OpenLeaf → List Block
  | fenced fence run => [fencedBlock fence ⟨run.start, run.after⟩ (run.cells ++ run.pending)]
  | html kind run =>
    if kind.endsAtBlank then
      blocks (.html kind run)
    else
      [.leaf (.html (stringOf (run.cells ++ run.pending))) ⟨run.start, run.after⟩]
  | leaf => blocks leaf

end OpenLeaf

/-- An open container with its finished blocks, newest first. -/
structure Frame where
  kind : ContainerKind
  start : Point
  blocks : List Block

/-- The outline of the lines so far. -/
structure Outline where
  /-- The open containers, innermost first. -/
  frames : List Frame
  /-- The finished blocks of the document itself, newest first. -/
  blocks : List Block
  leaf : OpenLeaf
  /-- Whether the next line would end a paragraph by beginning something else. -/
  interrupt : Bool
  /-- Whether the last line may be gone on with by a line without prefixes. -/
  accepting : Bool
  /-- Where the text of the last line ended. -/
  stop : Point
  /-- Whether the last line left out prefixes of containers. -/
  afterLazy : Bool
  /-- Whether a row that was given up as the head of a table ended with a pipe. The next tag counts as a
  closing one then. -/
  loosePipe : Bool
  /-- Whether containers may open. -/
  nests : Bool

namespace Outline

/-- The outline of no lines. -/
def empty (nests : Bool) : Outline :=
  ⟨[], [], .none false, false, false, ⟨1, 0⟩, false, false, nests⟩

/-- Adds blocks to the innermost container. -/
def add (o : Outline) (blocks : List Block) : Outline :=
  match o.frames with
  | [] => { o with blocks := blocks.reverse ++ o.blocks }
  | f :: rest => { o with frames := { f with blocks := blocks.reverse ++ f.blocks } :: rest }

/-- Closes the `n` innermost containers of which all end at `stop`. -/
def closeFrames (stop : Point) : Nat → List Frame → List Block → List Frame × List Block
  | 0, frames, blocks => (frames, blocks)
  | _, [], blocks => ([], blocks)
  | n + 1, f :: rest, blocks =>
    let closed := Block.container f.kind ⟨f.start, stop⟩ f.blocks.reverse
    match rest with
    | [] => ([], closed :: blocks)
    | g :: more => closeFrames stop n ({ g with blocks := closed :: g.blocks } :: more) blocks

/-- Closes the `n` innermost containers. -/
def close (o : Outline) (n : Nat) (stop : Point) : Outline :=
  let (frames, blocks) := closeFrames stop n o.frames o.blocks
  { o with frames, blocks, interrupt := false }

/-- Ends the open leaf together with the `n` innermost containers. These end with the last line, or
with the leaf when it reaches further. A leaf that began with a line without prefixes does not. -/
def finish (o : Outline) (n : Nat) : Outline :=
  let blocks := if o.afterLazy then o.leaf.blocks else o.leaf.blocksAtEnd
  let stop := blocks.foldl
    (fun stop b => if stop.offset < b.position.stop.offset then b.position.stop else stop) o.stop
  ({ o with leaf := .none false }.add blocks).close n stop

/-- Ends the open leaf because something else begins beside it. -/
def endLeaf (o : Outline) : Outline :=
  { o with leaf := .none false }.add o.leaf.blocks

/-- Opens a container. -/
def push (o : Outline) (kind : ContainerKind) (start : Point) : Outline :=
  { o with frames := ⟨kind, start, []⟩ :: o.frames }

end Outline

/-- A line while it is being added, after the prefixes of its containers. -/
structure Rest where
  line : Line
  cells : List Cell
  /-- The number of open containers that the line does not go on with. -/
  unmatched : Nat
  /-- Whether the line opened a container. -/
  pierced : Bool
  /-- Whether the line before was text that might have been the head row of a table but for a container
  that opened. -/
  afterHead : Bool
  /-- Whether a row that was given up as the head of a table ended with a pipe. -/
  loosePipe : Bool

namespace Rest

/-- Whether the line leaves out prefixes of open containers. -/
def isLazy (r : Rest) : Bool :=
  r.unmatched != 0

/-- Whether nothing of a container stands in front. -/
def attached (r : Rest) : Bool :=
  r.cells.length == r.line.cells.length

/-- Where the rest stands. -/
def position (r : Rest) : Position :=
  ⟨pointAt r.line r.cells, r.line.stopPoint⟩

/-- Whether the source ends before it is decided that the line is nothing but text: it could still open HTML
or fenced code, or be a break. -/
def isUndecided (r : Rest) : Bool :=
  r.line.eol.isNone &&
    match afterIndent? r.cells with
    | some (c :: rest) =>
      if c.char == '<' then isUnfinishedHtml r.loosePipe (chars (c :: rest))
      else if c.char == '`' || c.char == '~' then rest.all (·.char == c.char)
      else if c.char == '*' || c.char == '-' || c.char == '_' then
        rest.all fun d => d.isBlank || d.char == c.char
      else false
    | _ => false

end Rest

/-- What a line does to the open leaf: the blocks that ended before it, the leaf open after it, the
blocks that it makes by itself, and whether text after it would be interrupted. -/
structure Reading where
  before : List Block
  leaf : OpenLeaf
  blocks : List Block
  interrupt : Bool

/-- Reads a line that begins something: `leaf` is no code and no HTML. -/
def readFresh (leaf : OpenLeaf) (interrupt : Bool) (r : Rest) : Reading :=
  let alone (block : Leaf) : Reading :=
    ⟨leaf.blocks, .none false, [.leaf block r.position], false⟩
  let text : Reading :=
    match leaf with
    | .content run attached => ⟨[], .content (run.extend r.line r.cells r.cells) attached, [], true⟩
    | _ => ⟨leaf.blocks, .content (Run.begin r.line r.cells r.cells) r.attached, [], true⟩
  if allBlank r.cells then
    ⟨leaf.blocks, .none false, [], false⟩
  else if !interrupt && tabStop ≤ indentOf r.cells then
    let run := Run.begin r.line r.cells (r.cells.drop tabStop)
    if r.isLazy || r.pierced then
      ⟨leaf.blocks, .none false, [OpenLeaf.indentedBlock run], false⟩
    else
      ⟨leaf.blocks, .indented run, [], false⟩
  else
    match openingFence? r.cells with
    | some fence => ⟨leaf.blocks, .fenced fence (Run.begin r.line (dropBlanks r.cells) []), [], interrupt⟩
    | none =>
      match htmlStart? (!interrupt || r.isLazy) r.loosePipe r.cells with
      | some (kind, closed) =>
        if closed then
          alone (.html (stringOf r.cells))
        else
          ⟨leaf.blocks, .html kind (Run.begin r.line r.cells r.cells), [], interrupt⟩
      | none =>
        match atxHeading? r.cells with
        | some (level, cells) => alone (.heading level cells)
        | none =>
          if !r.isLazy && !r.pierced && leaf.underlinable && isUnderline r.cells then
            ⟨leaf.blocks, .none true, [.leaf (.underline r.cells r.line.eolCells) r.position], false⟩
          else if isThematicBreak r.cells then
            alone .thematicBreak
          else if isNoRow r.cells then
            text
          else
            match leaf with
            | .table rows _ =>
              if r.isLazy then text
              else ⟨[], .table (rows ++ [⟨r.cells, r.position⟩]) r.line.stopPoint, [], interrupt⟩
            | _ =>
              match headCount? r.loosePipe r.cells, r.line.eol with
              | some count, some _ =>
                let row := Run.begin r.line r.cells r.cells
                match leaf with
                | .content run attached => ⟨[], .head (some (run, attached)) row r.attached count, [], true⟩
                | _ => ⟨leaf.blocks, .head none row r.attached count, [], true⟩
              | _, _ => text

/-- Reads a line: it goes on with the open leaf, or ends it and begins something. -/
def readLine (leaf : OpenLeaf) (interrupt : Bool) (r : Rest) : Reading :=
  let after (interrupt : Bool) : Reading :=
    let fresh := readFresh (.none false) interrupt r
    { fresh with before := leaf.blocks ++ fresh.before }
  match leaf with
  | .fenced fence run =>
    if r.isLazy then
      after false
    else if closesFence fence r.cells then
      ⟨[], .none false,
        [OpenLeaf.fencedBlock fence ⟨run.start, r.line.stopPoint⟩ (run.cells ++ run.pending)], false⟩
    else
      let run := run.extend r.line r.cells (takeBlanks fence.indent r.cells).2
      ⟨[], .fenced fence run, [], interrupt⟩
  | .html kind run =>
    if r.isLazy || (kind.endsAtBlank && allBlank r.cells) then
      after false
    else
      let run := run.extend r.line r.cells r.cells
      if htmlCloses kind .inside (chars r.cells) then
        ⟨[], .none false, [.leaf (.html (stringOf run.cells)) run.position], false⟩
      else
        ⟨[], .html kind run, [], interrupt⟩
  | .indented run =>
    if r.isLazy || r.pierced then
      after false
    else if tabStop ≤ indentOf r.cells then
      ⟨[], .indented (run.extend r.line r.cells (r.cells.drop tabStop)), [], false⟩
    else if allBlank r.cells && r.line.eol.isSome then
      ⟨[], .indented (run.skip r.line), [], false⟩
    else
      after false
  | .head before row attached count =>
    if !r.isLazy && !r.pierced && isDelimiterRow count r.cells then
      let head : TableLine := ⟨row.cells, row.position⟩
      let ended := match before with
        | some (run, attached) => OpenLeaf.blocks (.content run attached)
        | none => []
      ⟨ended, .table [head] r.line.stopPoint, [], false⟩
    else
      readFresh (.ofHead before row attached) true r
  | leaf => readFresh leaf interrupt r

namespace Outline

/-- Goes on with open containers, given outermost first, as far as a line has their prefixes. -/
def continueFrames (cells : List Cell) : List Frame → List Frame × List Frame × List Cell
  | [] => ([], [], cells)
  | f :: rest =>
    match continueContainer? f.kind cells with
    | none => ([], f :: rest, cells)
    | some (kind, cells) =>
      let (matched, unmatched, cells) := continueFrames cells rest
      ({ f with kind } :: matched, unmatched, cells)

/-- Opens the containers that a line begins with. Every prefix takes a cell, so their number bounds
the steps. -/
def openFrames : Nat → Outline → Rest → Outline × Rest
  | 0, o, r => (o, r)
  | fuel + 1, o, r =>
    if !o.nests || (!r.isLazy && o.leaf.isConcrete) then
      (o, r)
    else
      match openContainer? (!r.isLazy && o.interrupt) r.line.hasWideEol r.cells with
      | none => (o, r)
      | some (kind, cells) =>
        let rest : Rest :=
          { r with
            cells, unmatched := 0, pierced := true
            afterHead := r.afterHead || (!r.isLazy && o.leaf.isHead)
            loosePipe := r.loosePipe || ((!r.isLazy || o.afterLazy) && o.leaf.endsHeadWithPipe) }
        let o := if r.isLazy then o.finish r.unmatched else o.endLeaf
        openFrames fuel (o.push kind (pointAt r.line r.cells)) rest

/-- Adds what remains of a line after the prefixes. A line without the prefixes of its containers
ends them, unless it goes on with text. -/
def addRest (o : Outline) (r : Rest) : Outline :=
  if r.isLazy && o.accepting && r.cells.isEmpty && r.line.eol.isNone then
    { o with stop := r.line.stopPoint }
  else
    let r := { r with loosePipe := r.loosePipe || (r.isLazy && o.leaf.endsHeadWithPipe) }
    let mayAccept := o.accepting && !r.isUndecided
    let o := if r.isLazy && o.accepting && !mayAccept then { o.endLeaf with interrupt := false } else o
    let reading := readLine o.leaf (o.interrupt || r.afterHead) r
    let accepts := reading.leaf.accepts
    let o := { o with leaf := .none false, interrupt := reading.interrupt }.add reading.before
    let o := if r.isLazy && !(mayAccept && accepts) then o.close r.unmatched o.stop else o
    { o.add reading.blocks with
      leaf := reading.leaf
      accepting := accepts
      stop := r.line.stopPoint
      afterLazy := r.isLazy
      loosePipe := r.loosePipe && !(reading.leaf.isText && mayBeRow r.cells) && !beginsTag r.cells }

def addLine (o : Outline) (line : Line) : Outline :=
  let (matched, unmatched, cells) := continueFrames line.cells o.frames.reverse
  let o := { o with frames := unmatched.reverse ++ matched.reverse }
  let rest : Rest := ⟨line, cells, unmatched.length, false, false, o.loosePipe⟩
  let (o, r) := openFrames line.cells.length o rest
  o.addRest r

/-- The blocks of a document, in order. -/
def toBlocks (o : Outline) : List Block :=
  (o.finish o.frames.length).blocks.reverse

/-- The outline of some lines, in which containers may open or not. -/
def ofLines (nests : Bool) (lines : List Line) : Outline :=
  lines.foldl addLine (empty nests)

end Outline

end DocLint.Markdown
