import DocLint.Markdown.FrontMatter
import DocLint.Markdown.Inline.Text

/-!
# The tree of a document

A document is read in two passes: its lines make an outline, which gives the labels that it defines;
then the texts are read with these.
-/

namespace DocLint.Markdown

set_option autoImplicit false

/-- Where a block stands, which decides whether the mark of a task may begin it. -/
inductive TaskPlace where
  /-- Not at the begin of a list item. -/
  | elsewhere
  /-- First in a list item, which begins at a byte offset. -/
  | leading (start : Nat)
  /-- In a list item after nothing but definitions, the last of which ends at a byte offset. -/
  | afterDefinitions (stop : Nat)
  deriving DecidableEq, Repr

namespace TaskPlace

/-- The place after a definition. -/
def next (stop : Nat) : TaskPlace → TaskPlace
  | elsewhere => elsewhere
  | _ => afterDefinitions stop

/-- The place of a paragraph. No mark begins one with a quote marker in front of it on a line of its own. -/
def ofParagraph (source : List Char) (start : Nat) (place : TaskPlace) : TaskPlace :=
  let quoted (p : Nat) : Bool :=
    ((Text.dropBytes p source).bind (Text.takeBytes (start - p))).any (·.contains '>')
  match place with
  | elsewhere => elsewhere
  | leading p => if quoted p then elsewhere else place
  | afterDefinitions p => if quoted p then elsewhere else place

end TaskPlace

/-- Makes nodes of drafts, of which the first stands at `place`. -/
def nodesOfDrafts (ctx : TextContext) (place : TaskPlace) : List Draft → List Node
  | [] => []
  | .node kind position children :: rest =>
    ⟨kind, some position, nodesOfDrafts { ctx with inTable := kind = .tableRow } .elsewhere children⟩ ::
      nodesOfDrafts ctx .elsewhere rest
  | .text kind position cells :: rest =>
    (match kind, place.ofParagraph ctx.source position.start.offset with
    | .paragraph, .leading _ =>
      let (position, children) := readTaskParagraph ctx true position cells
      ⟨kind, some position, children⟩
    | .paragraph, .afterDefinitions _ =>
      let (position, children) := readTaskParagraph ctx false position cells
      ⟨kind, some position, children⟩
    | _, _ => ⟨kind, some position, readText ctx cells⟩) :: nodesOfDrafts ctx .elsewhere rest
  | .definition _ position :: rest =>
    ⟨.definition, some position, []⟩ :: nodesOfDrafts ctx (place.next position.stop.offset) rest
  | .footnote _ position children :: rest =>
    ⟨.footnoteDefinition, some position, nodesOfDrafts ctx .elsewhere children⟩ ::
      nodesOfDrafts ctx .elsewhere rest
  | .item _ position children :: rest =>
    ⟨.listItem, some position, nodesOfDrafts ctx (.leading position.start.offset) children⟩ ::
      nodesOfDrafts ctx .elsewhere rest

/-- The nodes of the lines after the front matter. -/
def readLines (source : String) (nests : Bool) (lines : List Line) : List Node :=
  let chars := source.toList
  let drafts := Draft.withLists false (draftsOf chars none (Outline.ofLines nests lines).toBlocks)
  nodesOfDrafts ⟨chars, Labels.ofDrafts drafts, false⟩ .elsewhere drafts

/-- The top-level nodes of a document. -/
def readDocument (source : String) : List Node :=
  let lines := linesOf source
  match frontMatter? lines with
  | some (node, rest) => node :: readLines source true rest
  | none => readLines source (mayNest lines) lines

end DocLint.Markdown
