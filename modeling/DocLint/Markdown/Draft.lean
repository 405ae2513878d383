import DocLint.Markdown.Outline
import DocLint.Markdown.Reference

/-!
# Blocks whose text is still unread

Lines of text open with definitions; what remains is a paragraph, or the text of a heading when an
underline follows. Text can only be read when all labels of the document are known, so a draft keeps
the cells of each text.
-/

namespace DocLint.Markdown

set_option autoImplicit false

/-- A block of the syntax tree whose text is still unread. -/
inductive Draft where
  | node (kind : NodeKind) (position : Position) (children : List Draft)
  /-- A block whose children are read from cells. -/
  | text (kind : NodeKind) (position : Position) (cells : List Cell)
  | definition (label : List Char) (position : Position)
  | footnote (label : List Char) (position : Position) (children : List Draft)
  /-- An item of a list with the marker that its list has. -/
  | item (marker : Char) (position : Position) (children : List Draft)

namespace Draft

/-- Where a block stands. -/
def position : Draft → Position
  | node _ position _ => position
  | text _ position _ => position
  | definition _ position => position
  | footnote _ position _ => position
  | item _ position _ => position

/-- The marker of an item. -/
def marker? : Draft → Option Char
  | item marker _ _ => some marker
  | _ => none

/-- A list among items that follow one another: its marker, and the numbers of its first and its last
item. -/
structure ListSpan where
  marker : Char
  first : Nat
  last : Nat

/-- How many of the blocks after the first one begin where the one before them ends. In a container none
does: the prefix of a line stands between. -/
def adjoining (inside : Bool) : List Draft → Nat
  | a :: b :: rest =>
    if !inside && a.position.stop.offset = b.position.start.offset then
      adjoining inside (b :: rest) + 1
    else
      0
  | _ => 0

/-- Adds an item, up to `last`, to the innermost list with its marker that ends before it: the lists inside of
that one, and the lists that are open then. -/
def extendList (marker : Char) (n last : Nat) : List ListSpan → Option (List ListSpan × List ListSpan)
  | [] => none
  | s :: rest =>
    if s.marker == marker && s.last + 1 = n then some ([], { s with last } :: rest)
    else (extendList marker n last rest).map fun (inside, rest) => (s :: inside, rest)

/-- The lists that items make, given those that are open before the item with number `n`, innermost first. An
item that begins where the one before it ends opens a list inside of the list of that one. -/
def listSpans (inside : Bool) (open' : List ListSpan) (n : Nat) : List Draft → List ListSpan
  | [] => open'
  | d :: rest =>
    let marker := (marker? d).getD ' '
    let last := n + adjoining inside (d :: rest)
    match extendList marker n last open' with
    | some (ended, open') => ended ++ listSpans inside open' (n + 1) rest
    | none =>
      let (ended, open') := open'.span fun s => s.last < n
      ended ++ listSpans inside (⟨marker, n, last⟩ :: open') (n + 1) rest

/-- Lists while they are being filled, innermost first: where each begins, and its blocks, newest first. -/
abbrev OpenLists := List (Point × List Draft)

/-- Adds a block to the innermost list; without one it stands for itself. -/
def addBlock (d : Draft) (lists : OpenLists) (done : List Draft) : OpenLists × List Draft :=
  match lists with
  | [] => ([], d :: done)
  | (start, blocks) :: rest => ((start, d :: blocks) :: rest, done)

/-- Ends the `n` innermost lists. -/
def endLists (stop : Point) : Nat → OpenLists → List Draft → OpenLists × List Draft
  | _, [], done => ([], done)
  | 0, lists, done => (lists, done)
  | n + 1, (start, blocks) :: rest, done =>
    let (rest, done) := addBlock (.node .list ⟨start, stop⟩ blocks.reverse) rest done
    endLists stop n rest done

/-- Puts items into lists that begin and end with the given items, `n` being the number of the next one. -/
def fillLists (spans : List ListSpan) (lists : OpenLists) (done : List Draft) (n : Nat) :
    List Draft → List Draft
  | [] => done.reverse
  | d :: rest =>
    let begun := (spans.filter fun s => s.first = n).map fun _ => (d.position.start, [])
    let ended := (spans.filter fun s => s.last = n).length
    let (lists, done) := addBlock d (begun ++ lists) done
    let (lists, done) := endLists d.position.stop ended lists done
    fillLists spans lists done (n + 1) rest

/-- The lists of items that follow one another, `inside` a container or not. -/
def listsOf (inside : Bool) (items : List Draft) : List Draft :=
  fillLists (listSpans inside [] 0 items) [] [] 0 items

/-- Joins items to lists. `items` are those directly before, newest first. -/
def joinItems (inside : Bool) (items : List Draft) : List Draft → List Draft
  | [] => listsOf inside items.reverse
  | d :: rest =>
    if (marker? d).isSome then joinItems inside (d :: items) rest
    else listsOf inside items.reverse ++ d :: joinItems inside [] rest

/-- Joins items to lists, `inside` a container or not. -/
def withLists (inside : Bool) (drafts : List Draft) : List Draft :=
  joinItems inside [] drafts

end Draft

/-- Where some cells of a text stand, `stop` being its end. -/
def textPosition (cells : List Cell) (stop : Point) : Position :=
  match cells with
  | [] => ⟨stop, stop⟩
  | c :: _ => ⟨c.start, stop⟩

/-- Reads a definition: its label and what follows it, at the end of a line. A title that is followed by
anything else is none. -/
def definition? (cells : List Cell) : Option (List Cell × List Cell) :=
  (label? 0 (dropBlanks cells)).bind fun (label, rest) =>
    match rest with
    | colon :: rest =>
      if colon.char == ':' then
        (destination? none 0 (dropBlanksEol rest)).bind fun rest =>
          let beforeTitle := dropBlanksEol rest
          let titled := if beforeTitle.length < rest.length then title? beforeTitle else none
          match titled.filter atLineEnd with
          | some rest => some (label, dropBlanks rest)
          | none => if atLineEnd rest then some (label, dropBlanks rest) else none
      else
        none
    | [] => none

/-- Splits the definitions from the begin of a text. Every definition takes a cell, so their number
bounds the steps. -/
def splitDefinitions (source : List Char) : Nat → List Cell → List Draft × List Cell
  | 0, cells => ([], cells)
  | fuel + 1, cells =>
    match definition? cells with
    | none => ([], cells)
    | some (label, rest) =>
      let taken := cells.take (cells.length - rest.length)
      let stop := (taken.getLast?.map Cell.finish).getD ⟨1, 0⟩
      let (more, rest) := splitDefinitions source fuel (dropFirstEol rest)
      (.definition (normalizeLabel (sourceOf source label)) (textPosition taken stop) :: more, rest)

/-- A paragraph that the next line may turn into a heading. -/
structure Paragraph where
  cells : List Cell
  position : Position
  /-- The line ending after it, when it is an underline without text above it. -/
  eol : Option (List Cell)

/-- The block that an open paragraph makes. -/
def Paragraph.drafts (open' : Option Paragraph) : List Draft :=
  match open' with
  | some p => [.text .paragraph p.position p.cells]
  | none => []

def rowDraft (line : TableLine) : Draft :=
  .node .tableRow line.position
    ((tableCells line).map fun cell => .text .tableCell cell.position cell.text)

/-- The block that a leaf makes that is no text. -/
def leafDraft (leaf : Leaf) (position : Position) : List Draft :=
  match leaf with
  | .thematicBreak => [.node .thematicBreak position []]
  | .heading level text => [.text (.heading level) position text]
  | .code style lang info value => [.node (.code style lang info value) position []]
  | .html value => [.node (.html value) position []]
  | .table rows => [.node .table position (rows.map rowDraft)]
  | .content _ _ => []
  | .underline _ _ => []

/-- The level of a heading with a given underline. -/
def underlineLevel (cells : List Cell) : Nat :=
  if cells.any (·.char == '=') then 1 else 2

/-- The block that a container makes of its content. -/
def containerDraft (kind : ContainerKind) (position : Position) (children : List Draft) : Draft :=
  match kind with
  | .blockQuote => .node .blockQuote position children
  | .listItem marker _ _ => .item marker position children
  | .footnoteDefinition label => .footnote (normalizeLabel label) position children

/-- The blocks of a container, `open'` being a paragraph directly before them. An underline makes a
heading of it. Without text above it the underline is text itself, and goes on with the next line
when that is text without prefixes. -/
def draftsOf (source : List Char) (open' : Option Paragraph) : List Block → List Draft
  | [] => Paragraph.drafts open'
  | .leaf (.content cells attached) position :: rest =>
    let (definitions, text) := splitDefinitions source cells.length cells
    let merged := match open' with
      | some p =>
        match p.eol with
        | some eol =>
          if attached && definitions.isEmpty && position.start.line == p.position.stop.line + 1 then
            some (⟨p.cells ++ eol ++ text, ⟨p.position.start, position.stop⟩, none⟩ : Paragraph)
          else
            none
        | none => none
      | none => none
    match merged with
    | some p => draftsOf source (some p) rest
    | none =>
      Paragraph.drafts open' ++ definitions ++
        draftsOf source
          (if text.isEmpty then none else some ⟨text, textPosition text position.stop, none⟩) rest
  | .leaf (.underline cells eol) position :: rest =>
    match open' with
    | some p =>
      .text (.heading (underlineLevel cells)) ⟨p.position.start, position.stop⟩ p.cells ::
        draftsOf source none rest
    | none => draftsOf source (some ⟨cells, position, some eol⟩) rest
  | .leaf leaf position :: rest =>
    Paragraph.drafts open' ++ leafDraft leaf position ++ draftsOf source none rest
  | .container kind position blocks :: rest =>
    Paragraph.drafts open' ++
      containerDraft kind position (Draft.withLists true (draftsOf source none blocks)) ::
        draftsOf source none rest

/-- The labels that a document defines. -/
structure Labels where
  definitions : List (List Char)
  footnotes : List (List Char)

namespace Labels

/-- The labels of two parts of a document. -/
def append (a b : Labels) : Labels :=
  ⟨a.definitions ++ b.definitions, a.footnotes ++ b.footnotes⟩

/-- The labels that some blocks define. -/
def ofDrafts : List Draft → Labels
  | [] => ⟨[], []⟩
  | .node _ _ children :: rest => (ofDrafts children).append (ofDrafts rest)
  | .text _ _ _ :: rest => ofDrafts rest
  | .definition label _ :: rest => append ⟨[label], []⟩ (ofDrafts rest)
  | .footnote label _ children :: rest =>
    (append ⟨[], [label]⟩ (ofDrafts children)).append (ofDrafts rest)
  | .item _ _ children :: rest => (ofDrafts children).append (ofDrafts rest)

end Labels

end DocLint.Markdown
