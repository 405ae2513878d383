import DocLint.Document
import DocLint.Proofs.LineIndex
import DocLint.Proofs.Token.CodeType

/-!
# Blocks outside of texts

Headings, paragraphs and cells of tables hold text, and no block is part of a text. The type of HTML says that it
is a block, though, wherever it stands. So the record of a line has the innermost block outside of texts, unless
HTML in a text comes after it.
-/

namespace DocLint

set_option autoImplicit false

open Markdown (NodeKind LayeredIn readDocument)

def TokenType.holdsText : TokenType → Bool
  | .heading | .paragraph | .tableCell => true
  | _ => false

/-- Whether one of the tokens on the way to an address holds text. -/
def InText (tokens : List Token) (a : List Nat) : Prop :=
  ∃ b t, b <+: a ∧ b ≠ a ∧ tokenAt? tokens b = some t ∧ t.type.holdsText = true

/-- A token that holds text with at most HTML among the blocks inside it, or a block with layers inside it. -/
inductive Token.Layered : Token → Prop where
  | text {t : Token} : t.type.holdsText = true →
    (∀ d ∈ preorder t.children, d.type.isBlock = true → d.type = .html) → Layered t
  | flow {t : Token} : t.type.holdsText = false → t.type.isBlock = true →
    (∀ c ∈ t.children, Layered c) → Layered t

section Places
variable {tokens : List Token} {s t : Token} {i : Nat} {a rest : List Nat}

theorem not_inText_singleton : ¬ InText tokens [i] := by
  rintro ⟨b, t, hprefix, hne, hb, -⟩
  rcases List.prefix_cons_iff.mp hprefix with rfl | ⟨b', rfl, hb'⟩
  · cases hb
  · exact hne (by rw [List.prefix_nil.mp hb'])

theorem inText_cons_iff (h : tokens[i]? = some s) (hrest : rest ≠ []) :
    InText tokens (i :: rest) ↔ s.type.holdsText = true ∨ InText s.children rest := by
  constructor
  · rintro ⟨b, t, hprefix, hne, hb, ht⟩
    rcases List.prefix_cons_iff.mp hprefix with rfl | ⟨b', rfl, hprefix'⟩
    · cases hb
    · rw [tokenAt?_cons h] at hb
      split at hb
      · cases hb
        exact .inl ht
      · exact .inr ⟨b', t, hprefix', fun heq => hne (by rw [heq]), hb, ht⟩
  · rintro (hs | ⟨b, t, hprefix, hne, hb, ht⟩)
    · refine ⟨[i], s, List.prefix_cons_iff.mpr (.inr ⟨[], rfl, List.nil_prefix⟩), ?_, ?_, hs⟩
      · intro heq
        exact hrest (List.cons.inj heq).2.symm
      · rw [tokenAt?_cons h, if_pos rfl]
    · refine ⟨i :: b, t, List.prefix_cons_iff.mpr (.inr ⟨b, rfl, hprefix⟩), ?_, ?_, ht⟩
      · intro heq
        exact hne (List.cons.inj heq).2
      · rwa [tokenAt?_cons h, if_neg (ne_nil_of_tokenAt? hb)]

theorem isBlock_of_holdsText {type : TokenType} (h : type.holdsText = true) : type.isBlock = true := by
  cases type with
  | heading | paragraph | tableCell => rfl
  | _ => cases h

theorem Token.Layered.isBlock (h : t.Layered) : t.type.isBlock = true := by
  cases h with
  | text htext _ => exact isBlock_of_holdsText htext
  | flow _ hblock _ => exact hblock

/-- Outside of texts all tokens are blocks, and inside them HTML is the only token with the type of one. -/
theorem block_or_html_of_layered (h : ∀ t ∈ tokens, t.Layered) (hat : tokenAt? tokens a = some t) :
    (¬ InText tokens a ∧ t.type.isBlock = true) ∨
      (InText tokens a ∧ (t.type.isBlock = true → t.type = .html)) := by
  induction a generalizing tokens with
  | nil => cases hat
  | cons i rest ih =>
    obtain ⟨s, hs, -⟩ := Option.bind_eq_some_iff.mp hat
    have hlayered : s.Layered := h s (List.mem_of_getElem? hs)
    rw [tokenAt?_cons hs] at hat
    split at hat
    · next hrest =>
      cases hat
      rw [hrest]
      exact .inl ⟨not_inText_singleton, hlayered.isBlock⟩
    · next hrest =>
      rw [inText_cons_iff hs hrest]
      cases hlayered with
      | text htext hinside =>
        exact .inr ⟨.inl htext, hinside t (mem_preorder_iff.mpr ⟨rest, hat⟩)⟩
      | flow htext _ hchildren =>
        have hskip : (s.type.holdsText = true ∨ InText s.children rest) ↔ InText s.children rest :=
          or_iff_right (Bool.eq_false_iff.mp htext)
        rw [hskip]
        exact ih hchildren hat

end Places

section Tokens
variable {text : String}

theorem holdsText_tokenType {kind : NodeKind} (h : kind.holdsText = true) (span : Span) :
    (tokenType text span kind).holdsText = true := by
  cases kind with
  | heading _ | paragraph | tableCell => rfl
  | _ => cases h

theorem tokenType_of_isFlow {kind : NodeKind} (h : kind.isFlow = true) (span : Span) :
    (tokenType text span kind).holdsText = false ∧ (tokenType text span kind).isBlock = true := by
  cases kind with
  | code _ _ _ _ =>
    rw [tokenType]
    split
    · exact ⟨rfl, rfl⟩
    · exact ⟨rfl, rfl⟩
  | blockQuote | list | listItem | html _ | thematicBreak | yaml _ | toml _ | table | tableRow | definition
  | footnoteDefinition | math _ => exact ⟨rfl, rfl⟩
  | _ => cases h

theorem tokenType_of_isInline {kind : NodeKind} (h : kind.isInline = true) (span : Span)
    (hblock : (tokenType text span kind).isBlock = true) : tokenType text span kind = .html := by
  cases kind with
  | html _ => rfl
  | text _ | inlineCode _ | emphasis | strong | strikethrough | link | image | lineBreak | linkReference
  | imageReference | footnoteReference | inlineMath _ => cases hblock
  | _ => cases h

theorem tokensOf_eq_map (text : String) (nodes : List Markdown.Node) :
    tokensOf text nodes = nodes.map (tokenOf text) := by
  induction nodes with
  | nil => rw [tokensOf, List.map_nil]
  | cons n rest ih =>
    obtain ⟨kind, position, children⟩ := n
    rw [tokensOf, ih, List.map_cons]
    rfl

theorem layered_tokenOf {n : Markdown.Node} (h : LayeredIn text n) : (tokenOf text n).Layered := by
  induction h with
  | @text n hkind hchildren =>
    refine .text (holdsText_tokenType hkind _) ?_
    intro d hd
    rw [tokenOf, preorder_tokensOf] at hd
    obtain ⟨m, hm, rfl⟩ := List.mem_map.mp hd
    exact tokenType_of_isInline (all_of_mem_subnodes hchildren hm) _
  | @flow n hkind _ _ ih =>
    obtain ⟨htext, hblock⟩ := tokenType_of_isFlow hkind (spanOf n.position)
    refine .flow htext hblock ?_
    intro c hc
    rw [tokenOf, tokensOf_eq_map] at hc
    obtain ⟨m, hm, rfl⟩ := List.mem_map.mp hc
    exact ih m hm

/-- The tokens of a document have the two layers. -/
theorem layered_readDocument (text : String) : ∀ t ∈ tokensOf text (readDocument text), t.Layered := by
  rw [tokensOf_eq_map, List.forall_mem_map]
  intro n hn
  exact layered_tokenOf (Markdown.layeredIn_readDocument text n hn)

theorem tokens_of_markdown {stream : TokenStream} (h : Parser.markdown.parse text = .ok stream) :
    stream.tokens = tokensOf text (readDocument text) := by
  simp only [Parser.markdown] at h
  cases hcheck : checkSource text with
  | error e =>
    rw [hcheck] at h
    cases h
  | ok _ =>
    rw [hcheck] at h
    cases h
    rfl

end Tokens

section Tag
open Markdown

/-- A document that is nothing but a paragraph. -/
theorem readDocument_of_text {text : String} {cells : List Cell} {attached : Bool} {position : Position}
    (hfront : frontMatter? (linesOf text) = none)
    (hblocks : (Outline.ofLines (mayNest (linesOf text)) (linesOf text)).toBlocks =
      [.leaf (.content cells attached) position])
    (hsplit : splitDefinitions text.toList cells.length cells = ([], cells)) (hne : cells ≠ []) :
    readDocument text =
      [⟨.paragraph, some (textPosition cells position.stop), readText ⟨text.toList, ⟨[], []⟩, false⟩ cells⟩] := by
  have hdrafts : Draft.withLists false (draftsOf text.toList none [.leaf (.content cells attached) position]) =
      [.text .paragraph (textPosition cells position.stop) cells] := by
    simp [draftsOf, hsplit, hne, Paragraph.drafts]
    rfl
  have hplace (source : List Char) (start : Nat) : TaskPlace.ofParagraph source start .elsewhere = .elsewhere := rfl
  rw [readDocument_of_drafts hfront hblocks hdrafts]
  simp [nodesOfDrafts, Labels.ofDrafts, hplace]

/-- The cells of a text with a tag in it. -/
def taggedCells : List Cell :=
  [⟨'a', ['a'], 1, 0, 1, 0⟩, ⟨'<', ['<'], 1, 1, 2, 0⟩, ⟨'b', ['b'], 1, 2, 3, 0⟩, ⟨'>', ['>'], 1, 3, 4, 0⟩]

theorem readText_tagged : readText ⟨"a<b>".toList, ⟨[], []⟩, false⟩ taggedCells =
    [⟨.text "a", some ⟨⟨1, 0⟩, ⟨1, 1⟩⟩, []⟩, ⟨.html "<b>", some ⟨⟨1, 1⟩, ⟨1, 4⟩⟩, []⟩] := by
  let html : Node := ⟨.html "<b>", some ⟨⟨1, 1⟩, ⟨1, 4⟩⟩, []⟩
  have hpieces : readPieces ⟨"a<b>".toList, ⟨[], []⟩, false⟩ taggedCells.length TextScan.empty taggedCells =
      ⟨[.node html, .char ⟨'a', ['a'], 1, 0, 1, 0⟩], [], some '>', false, 0⟩ := by
    rfl
  have hnodes : nodesOf false [.char ⟨'a', ['a'], 1, 0, 1, 0⟩, .node html] =
      [⟨.text "a", some ⟨⟨1, 0⟩, ⟨1, 1⟩⟩, []⟩, html] := by
    simp [nodesOf, matchRuns, Piece.unmatched, settleMargins, linkMail, withMail, mailPieces, nodesFrom,
      TextRun.nodes, TextRun.join, html]
    decide
  have hstart : startLine TextScan.empty taggedCells = (TextScan.empty, taggedCells) := rfl
  rw [readText, hstart]
  simp only [readNodes]
  rw [hpieces]
  exact hnodes

theorem readDocument_tagged : readDocument "a<b>" =
    [⟨.paragraph, some ⟨⟨1, 0⟩, ⟨1, 4⟩⟩,
      [⟨.text "a", some ⟨⟨1, 0⟩, ⟨1, 1⟩⟩, []⟩, ⟨.html "<b>", some ⟨⟨1, 1⟩, ⟨1, 4⟩⟩, []⟩]⟩] := by
  have hblocks : (Outline.ofLines (mayNest (linesOf "a<b>")) (linesOf "a<b>")).toBlocks =
      [.leaf (.content taggedCells true) ⟨⟨1, 0⟩, ⟨1, 4⟩⟩] := rfl
  rw [readDocument_of_text rfl hblocks rfl nofun, readText_tagged]
  rfl

def taggedHtml : Token :=
  ⟨.html, 1, 1, ⟨1, 4⟩, "<b>", "", []⟩

def taggedTokens : List Token :=
  [⟨.paragraph, 1, 1, ⟨0, 4⟩, "a<b>", "", [⟨.text, 1, 1, ⟨0, 1⟩, "a", "", []⟩, taggedHtml]⟩]

theorem parse_tagged : Parser.markdown.parse "a<b>" = .ok ⟨.markdown, taggedTokens⟩ := by
  have hcheck : checkSource "a<b>" = .ok () := rfl
  simp only [Parser.markdown, hcheck, readDocument_tagged, tokensOf]
  rfl

/-- The place of the tag is in the paragraph. -/
theorem inText_taggedHtml {a : List Nat} (h : tokenAt? taggedTokens a = some taggedHtml) :
    InText taggedTokens a := by
  rcases a with _ | ⟨_ | i, rest⟩
  · cases h
  · by_cases hrest : rest = []
    · rw [hrest] at h
      cases h
    · exact (inText_cons_iff rfl hrest).mpr (.inl rfl)
  · cases h

theorem record_tagged : (Document.ofSource "a.md" "a<b>" ⟨.markdown, taggedTokens⟩).index.get? 1 =
    some ⟨1, "a<b>", .text, some taggedHtml⟩ := by
  have hlast : lastBlock taggedTokens 1 = some taggedHtml := by
    simp only [lastBlock, taggedTokens, taggedHtml, preorder_cons, preorder_nil]
    rfl
  have hlines : splitLines "a<b>" = ["a<b>"] := rfl
  rw [Document.index, Document.ofSource, hlines, LineIndex.get?_succ, LineIndex.records_build, List.getElem?_mapIdx]
  simp only [List.getElem?_cons_zero, Option.map_some, hlast]
  rfl

end Tag

section Lines
variable {tokens : List Token} {n : Nat} {a : List Nat} {t : Token}

/-- A token outside of texts that covers a line. -/
def BlockOn (tokens : List Token) (n : Nat) (a : List Nat) (t : Token) : Prop :=
  tokenAt? tokens a = some t ∧ ¬ InText tokens a ∧ t.coversLine n = true

/-- HTML in a text that covers a line. -/
def HtmlOn (tokens : List Token) (n : Nat) (a : List Nat) (t : Token) : Prop :=
  tokenAt? tokens a = some t ∧ InText tokens a ∧ t.type = .html ∧ t.coversLine n = true

/-- The last place of some, in the order of a walk. -/
def LastPlace (P : List Nat → Token → Prop) (a : List Nat) (t : Token) : Prop :=
  P a t ∧ ∀ b u, P b u → ¬ a < b

theorem lastPlace_or_iff {P Q : List Nat → Token → Prop} :
    LastPlace (fun a t => P a t ∨ Q a t) a t ↔
      (LastPlace P a t ∧ ∀ b u, Q b u → ¬ a < b) ∨ (LastPlace Q a t ∧ ∀ b u, P b u → ¬ a < b) := by
  constructor
  · rintro ⟨hP | hQ, hmax⟩
    · exact .inl ⟨⟨hP, fun b u hb => hmax b u (.inl hb)⟩, fun b u hb => hmax b u (.inr hb)⟩
    · exact .inr ⟨⟨hQ, fun b u hb => hmax b u (.inr hb)⟩, fun b u hb => hmax b u (.inl hb)⟩
  · rintro (⟨⟨hP, hmaxP⟩, hmaxQ⟩ | ⟨⟨hQ, hmaxQ⟩, hmaxP⟩)
    · exact ⟨.inl hP, fun b u hb => hb.elim (hmaxP b u) (hmaxQ b u)⟩
    · exact ⟨.inr hQ, fun b u hb => hb.elim (hmaxP b u) (hmaxQ b u)⟩

theorem blockOn_or_htmlOn_iff (h : ∀ t ∈ tokens, t.Layered) :
    BlockOn tokens n a t ∨ HtmlOn tokens n a t ↔
      tokenAt? tokens a = some t ∧ t.type.isBlock = true ∧ t.coversLine n = true := by
  constructor
  · rintro (⟨hat, hout, hcovers⟩ | ⟨hat, -, hhtml, hcovers⟩)
    · rcases block_or_html_of_layered h hat with ⟨-, hblock⟩ | ⟨hin, -⟩
      · exact ⟨hat, hblock, hcovers⟩
      · exact absurd hin hout
    · exact ⟨hat, by rw [hhtml]; rfl, hcovers⟩
  · rintro ⟨hat, hblock, hcovers⟩
    rcases block_or_html_of_layered h hat with ⟨hout, -⟩ | ⟨hin, hhtml⟩
    · exact .inl ⟨hat, hout, hcovers⟩
    · exact .inr ⟨hat, hin, hhtml hblock, hcovers⟩

theorem lastBlock_eq_some_iff_of_layered (h : ∀ t ∈ tokens, t.Layered) : lastBlock tokens n = some t ↔
    ∃ a, LastPlace (fun a t => BlockOn tokens n a t ∨ HtmlOn tokens n a t) a t := by
  simp only [lastBlock_eq_some_iff, LastPlace, blockOn_or_htmlOn_iff h, and_imp, and_assoc]

/-- The record of a line of a Markdown document has the innermost block that covers the line, unless HTML in a
text covers it and comes later. Then it has the last such HTML. -/
theorem token_of_line {name source : String} {stream : TokenStream} {r : LineRecord}
    (hparse : Parser.markdown.parse source = .ok stream)
    (hrecord : (Document.ofSource name source stream).index.get? n = some r) (t : Token) :
    r.token = some t ↔
      (∃ a, LastPlace (BlockOn stream.tokens n) a t ∧ ∀ b u, HtmlOn stream.tokens n b u → ¬ a < b) ∨
        ∃ a, LastPlace (HtmlOn stream.tokens n) a t ∧ ∀ b u, BlockOn stream.tokens n b u → ¬ a < b := by
  have hlayered : ∀ t ∈ stream.tokens, t.Layered := by
    rw [tokens_of_markdown hparse]
    exact layered_readDocument source
  have htoken : r.token = lastBlock stream.tokens n := LineIndex.token_of_get? hrecord
  rw [htoken, lastBlock_eq_some_iff_of_layered hlayered, ← exists_or]
  exact exists_congr fun a => lastPlace_or_iff

/-- The record of a line may have HTML, with the paragraph above it covering the line. -/
theorem inText_of_tagged : Parser.markdown.parse "a<b>" = .ok ⟨.markdown, taggedTokens⟩ ∧
    ∃ r, (Document.ofSource "a.md" "a<b>" ⟨.markdown, taggedTokens⟩).index.get? 1 = some r ∧
      r.token = some taggedHtml ∧ ∀ a, tokenAt? taggedTokens a = some taggedHtml → InText taggedTokens a :=
  ⟨parse_tagged, _, record_tagged, rfl, fun _ => inText_taggedHtml⟩

theorem lastPlace_of_tagged : Parser.markdown.parse "a<b>" = .ok ⟨.markdown, taggedTokens⟩ ∧
    ∃ r, (Document.ofSource "a.md" "a<b>" ⟨.markdown, taggedTokens⟩).index.get? 1 = some r ∧
      ∃ a, LastPlace (HtmlOn taggedTokens 1) a taggedHtml ∧ ∀ b u, BlockOn taggedTokens 1 b u → ¬ a < b := by
  refine ⟨parse_tagged, _, record_tagged, ?_⟩
  rcases (token_of_line parse_tagged record_tagged taggedHtml).mp rfl with ⟨a, hlast, -⟩ | hhtml
  · obtain ⟨hat, hout, -⟩ := hlast.1
    exact absurd (inText_taggedHtml hat) hout
  · exact hhtml

end Lines

end DocLint
