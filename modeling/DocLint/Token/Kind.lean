/-!
# Types of tokens

A token is a block or inline content. Code is a fence or an indented block.
-/

namespace DocLint

set_option autoImplicit false

inductive TokenType where
  | heading
  | paragraph
  | blockQuote
  | list
  | listItem
  | fence
  | codeBlock
  | html
  | horizontalRule
  | frontMatter
  | table
  | tableRow
  | tableCell
  | definition
  | footnoteDefinition
  | math
  | text
  | codeInline
  | emphasis
  | strong
  | strikethrough
  | link
  | image
  | lineBreak
  | linkReference
  | imageReference
  | footnoteReference
  | inlineMath
  | other
  deriving DecidableEq, Inhabited, Repr

namespace TokenType

/-- All types, blocks first. -/
def all : List TokenType :=
  [heading, paragraph, blockQuote, list, listItem, fence, codeBlock, html, horizontalRule,
    frontMatter, table, tableRow, tableCell, definition, footnoteDefinition, math, text, codeInline,
    emphasis, strong, strikethrough, link, image, lineBreak, linkReference, imageReference,
    footnoteReference, inlineMath, other]

/-- Blocks, as opposed to inline content. -/
def isBlock : TokenType → Bool
  | heading | paragraph | blockQuote | list | listItem | fence | codeBlock | html | horizontalRule
  | frontMatter | table | tableRow | tableCell | definition | footnoteDefinition | math => true
  | text | codeInline | emphasis | strong | strikethrough | link | image | lineBreak | linkReference
  | imageReference | footnoteReference | inlineMath | other => false

/-- Blocks of code. -/
def isCode : TokenType → Bool
  | fence | codeBlock => true
  | _ => false

def name : TokenType → String
  | heading => "heading"
  | paragraph => "paragraph"
  | blockQuote => "block_quote"
  | list => "list"
  | listItem => "list_item"
  | fence => "fence"
  | codeBlock => "code_block"
  | html => "html"
  | horizontalRule => "horizontal_rule"
  | frontMatter => "front_matter"
  | table => "table"
  | tableRow => "table_row"
  | tableCell => "table_cell"
  | definition => "definition"
  | footnoteDefinition => "footnote_definition"
  | math => "math"
  | text => "text"
  | codeInline => "code_inline"
  | emphasis => "emphasis"
  | strong => "strong"
  | strikethrough => "strikethrough"
  | link => "link"
  | image => "image"
  | lineBreak => "line_break"
  | linkReference => "link_reference"
  | imageReference => "image_reference"
  | footnoteReference => "footnote_reference"
  | inlineMath => "inline_math"
  | other => "other"

def ofName? (s : String) : Option TokenType :=
  all.find? fun t => t.name == s

/-- The names of all types. -/
def choices : List (String × TokenType) :=
  all.map fun t => (t.name, t)

theorem mem_all (t : TokenType) : t ∈ all := by
  cases t <;> decide

end TokenType

end DocLint
