import DocLint.Markdown.Fence

/-!
# Front matter

A document may open with data between two lines of three dashes (YAML) or three plus signs (TOML).
-/

namespace DocLint.Markdown

set_option autoImplicit false

/-- Whether a line is a fence of front matter: exactly three markers, then white space at most. -/
def isFrontMatterFence (marker : Char) (line : Line) : Bool :=
  let (marks, rest) := spanCells (· == marker) line.cells
  marks.length == 3 && allBlank rest

/-- The lines before the closing fence, that fence, and the lines after it. -/
def splitAtFence (marker : Char) : List Line → Option (List Line × Line × List Line)
  | [] => none
  | line :: rest =>
    if isFrontMatterFence marker line then
      some ([], line, rest)
    else
      (splitAtFence marker rest).map fun (inside, fence, after) => (line :: inside, fence, after)

/-- The kind of node that front matter with a given marker makes. -/
def frontMatterKind (marker : Char) (value : String) : NodeKind :=
  if marker == '-' then .yaml value else .toml value

/-- The marker of front matter that a document opens with, be it closed or not. -/
def frontMatterMarker? (lines : List Line) : Option Char :=
  (lines.head?).bind fun first =>
    ((first.cells.head?).map Cell.char).filter fun marker =>
      (marker == '-' || marker == '+') && isFrontMatterFence marker first && first.eol.isSome

/-- Reads front matter at the begin of a document: its node and the lines after it. -/
def frontMatter? (lines : List Line) : Option (Node × List Line) :=
  match lines, frontMatterMarker? lines with
  | first :: rest, some marker =>
    (splitAtFence marker rest).map fun (inside, fence, after) =>
      let cells := first.eolCells ++ (inside.map fun line => line.cells ++ line.eolCells).flatten
      let position : Position := ⟨first.startPoint, fence.stopPoint⟩
      (⟨frontMatterKind marker (codeValue cells), some position, []⟩, after)
  | _, _ => none

/-- Whether containers may open in a document that has no front matter: not when it opens with the fence of
front matter that is never closed, unless only a line without an ending follows. -/
def mayNest (lines : List Line) : Bool :=
  (frontMatterMarker? lines).isNone ||
    match lines with
    | [_, last] => last.eol.isNone
    | _ => false

end DocLint.Markdown
