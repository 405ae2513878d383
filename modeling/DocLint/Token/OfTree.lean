import DocLint.Markdown.Document
import DocLint.Token.Basic

/-!
# Tokens of a syntax tree

Every node makes one token. Code, HTML, front matter and text hold their value; every other token
holds the source that it spans.
-/

namespace DocLint

set_option autoImplicit false

open Markdown (Node NodeKind Position)

/-- Whether code begins with a fence, apart from white space. -/
def opensWithFence (source : String) (span : Span) : Bool :=
  match span.slice? source with
  | some text =>
    let rest := text.toList.dropWhile fun c => c == ' ' || c == '\t'
    ['`', '`', '`'].isPrefixOf rest || ['~', '~', '~'].isPrefixOf rest
  | none => false

/-- A number as a token keeps it: its lowest 32 bits. -/
def narrow (n : Nat) : Nat :=
  n % UInt32.size

theorem narrow_of_lt {n : Nat} (h : n < UInt32.size) : narrow n = n :=
  Nat.mod_eq_of_lt h

/-- The bytes that a node spans. -/
def spanOf : Option Position → Span
  | some p => ⟨narrow p.start.offset, narrow p.stop.offset⟩
  | none => ⟨0, 0⟩

/-- The first and the last line of a node. -/
def linesOfPosition : Option Position → Nat × Nat
  | some p => (narrow p.start.line, narrow p.stop.line)
  | none => (1, 1)

def tokenType (source : String) (span : Span) : NodeKind → TokenType
  | .heading _ => .heading
  | .paragraph => .paragraph
  | .blockQuote => .blockQuote
  | .list => .list
  | .listItem => .listItem
  | .code _ _ _ _ => if opensWithFence source span then .fence else .codeBlock
  | .html _ => .html
  | .thematicBreak => .horizontalRule
  | .yaml _ => .frontMatter
  | .toml _ => .frontMatter
  | .table => .table
  | .tableRow => .tableRow
  | .tableCell => .tableCell
  | .definition => .definition
  | .footnoteDefinition => .footnoteDefinition
  | .math _ => .math
  | .text _ => .text
  | .inlineCode _ => .codeInline
  | .emphasis => .emphasis
  | .strong => .strong
  | .strikethrough => .strikethrough
  | .link => .link
  | .image => .image
  | .lineBreak => .lineBreak
  | .linkReference => .linkReference
  | .imageReference => .imageReference
  | .footnoteReference => .footnoteReference
  | .inlineMath _ => .inlineMath
  | .other => .other

/-- The value of a node that is kept as such. -/
def literalValue? : NodeKind → Option String
  | .code _ _ _ value => some value
  | .inlineCode value => some value
  | .text value => some value
  | .html value => some value
  | .yaml value => some value
  | .toml value => some value
  | .math value => some value
  | .inlineMath value => some value
  | _ => none

/-- What a token holds. -/
def contentOf (source : String) (span : Span) (kind : NodeKind) : String :=
  match literalValue? kind with
  | some value => value
  | none => (span.slice? source).getD ""

/-- The language of code and what is written after it. -/
def infoOf : NodeKind → String
  | .code _ (some lang) (some info) _ => lang ++ " " ++ info
  | .code _ (some lang) none _ => lang
  | _ => ""

/-- The tokens of some nodes. -/
def tokensOf (source : String) : List Node → List Token
  | [] => []
  | ⟨kind, position, children⟩ :: rest =>
    let span := spanOf position
    { type := tokenType source span kind
      line := (linesOfPosition position).1
      endLine := (linesOfPosition position).2
      span
      content := contentOf source span kind
      info := infoOf kind
      children := tokensOf source children } :: tokensOf source rest

end DocLint
