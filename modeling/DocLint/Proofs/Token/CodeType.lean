import DocLint.Proofs.Markdown.Document
import DocLint.Token.Walk

/-!
# The type of the token of code

The token of a block of code is a fence if the block is fenced. If the block is indented, its token is a fence
as well when the code itself begins like one.
-/

namespace DocLint

set_option autoImplicit false

open Markdown (Node NodeKind CodeStyle readDocument beginsWithFence)

/-- All nodes of a forest, parents before children. -/
def subnodes : List Node → List Node
  | [] => []
  | ⟨kind, position, children⟩ :: rest => ⟨kind, position, children⟩ :: (subnodes children ++ subnodes rest)

/-- The token of a node. -/
def tokenOf (source : String) (n : Node) : Token where
  type := tokenType source (spanOf n.position) n.kind
  line := (linesOfPosition n.position).1
  endLine := (linesOfPosition n.position).2
  span := spanOf n.position
  content := contentOf source (spanOf n.position) n.kind
  info := infoOf n.kind
  children := tokensOf source n.children

/-- The tokens of a tree are those of its nodes. -/
theorem preorder_tokensOf (source : String) (nodes : List Node) :
    preorder (tokensOf source nodes) = (subnodes nodes).map (tokenOf source) := by
  fun_induction subnodes nodes with
  | case1 => simp [tokensOf]
  | case2 kind position children rest ihchildren ihrest =>
    rw [tokensOf, preorder, List.map_cons, List.map_append, ihchildren, ihrest]
    rfl

theorem all_of_mem_subnodes {P : Node → Prop} {nodes : List Node} (h : ∀ n ∈ nodes, n.All P) {n : Node}
    (hn : n ∈ subnodes nodes) : P n := by
  fun_induction subnodes nodes with
  | case1 => exact absurd hn List.not_mem_nil
  | case2 kind position children rest ihchildren ihrest =>
    obtain ⟨hfirst, hrest⟩ := List.forall_mem_cons.mp h
    cases hfirst with
    | mk hroot hchildren =>
      rw [List.mem_cons, List.mem_append] at hn
      rcases hn with rfl | hn | hn
      · exact hroot
      · exact ihchildren hchildren hn
      · exact ihrest hrest hn

/-- What code spans in a text is what its token spans, if a token can count the bytes of the text. -/
theorem spanOf_of_codeAt {text : String} {p : Markdown.Position} {style : CodeStyle} {value : String}
    (hsize : Text.byteLength text.toList < UInt32.size) (h : Markdown.CodeAt text p style value) :
    spanOf (some p) = ⟨p.start.offset, p.stop.offset⟩ := by
  have hstop : p.stop.offset < UInt32.size := Nat.lt_of_le_of_lt h.inside hsize
  rw [spanOf, narrow_of_lt (Nat.lt_of_le_of_lt h.ordered hstop), narrow_of_lt hstop]

/-- The token of code in a document of less than 2 ^ 32 bytes is a fence if the code is fenced or begins like a fence
itself, and otherwise a block of code. -/
theorem type_of_code {text : String} (hsize : Text.byteLength text.toList < UInt32.size) {n : Node}
    (hn : n ∈ subnodes (readDocument text)) {style : CodeStyle} {lang info : Option String} {value : String}
    (hkind : n.kind = .code style lang info value) :
    tokenOf text n ∈ preorder (tokensOf text (readDocument text)) ∧
      ((tokenOf text n).type = .fence ↔ style = .fenced ∨ beginsWithFence value.toList = true) ∧
      ((tokenOf text n).type = .codeBlock ↔ style = .indented ∧ beginsWithFence value.toList = false) := by
  obtain ⟨p, hposition, hcode⟩ : Markdown.CodeIn text n.position style value :=
    all_of_mem_subnodes (Markdown.nodeIn_readDocument text) hn style lang info value hkind
  have htype : (tokenOf text n).type =
      if (style == .fenced || beginsWithFence value.toList) = true then .fence else .codeBlock := by
    rw [tokenOf, hkind, hposition, spanOf_of_codeAt hsize hcode, ← hcode.opens]
    rfl
  refine ⟨?_, ?_, ?_⟩
  · rw [preorder_tokensOf]
    exact List.mem_map_of_mem hn
  · rw [htype]
    cases style <;> cases beginsWithFence value.toList <;> decide
  · rw [htype]
    cases style <;> cases beginsWithFence value.toList <;> decide

section Tildes
open Markdown

/-- A document without front matter, when its blocks and the drafts made of them are known. -/
theorem readDocument_of_drafts {text : String} {blocks : List Block} {drafts : List Draft}
    (hfront : frontMatter? (linesOf text) = none)
    (hblocks : (Outline.ofLines (mayNest (linesOf text)) (linesOf text)).toBlocks = blocks)
    (hdrafts : Draft.withLists false (draftsOf text.toList none blocks) = drafts) :
    readDocument text = nodesOfDrafts ⟨text.toList, Labels.ofDrafts drafts, false⟩ .elsewhere drafts := by
  simp only [readDocument, hfront, readLines, hblocks, hdrafts]

/-- A document that is nothing but code. -/
theorem readDocument_of_code {text : String} {style : CodeStyle} {lang info : Option String} {value : String}
    {position : Position} (hfront : frontMatter? (linesOf text) = none)
    (hblocks : (Outline.ofLines (mayNest (linesOf text)) (linesOf text)).toBlocks =
      [.leaf (.code style lang info value) position]) :
    readDocument text = [⟨.code style lang info value, some position, []⟩] := by
  have hdrafts : Draft.withLists false (draftsOf text.toList none [.leaf (.code style lang info value) position]) =
      [.node (.code style lang info value) position []] := by
    simp [draftsOf, leafDraft, Paragraph.drafts]
    rfl
  rw [readDocument_of_drafts hfront hblocks hdrafts]
  simp [nodesOfDrafts]

/-- Three tildes open fenced code. -/
theorem type_of_tildes :
    Text.byteLength "~~~".toList < UInt32.size ∧
      readDocument "~~~" = [⟨.code .fenced none none "", some ⟨⟨1, 0⟩, ⟨1, 3⟩⟩, []⟩] ∧
      ⟨.code .fenced none none "", some ⟨⟨1, 0⟩, ⟨1, 3⟩⟩, []⟩ ∈ subnodes (readDocument "~~~") ∧
      (tokenOf "~~~" ⟨.code .fenced none none "", some ⟨⟨1, 0⟩, ⟨1, 3⟩⟩, []⟩).type = .fence := by
  have hread : readDocument "~~~" = [⟨.code .fenced none none "", some ⟨⟨1, 0⟩, ⟨1, 3⟩⟩, []⟩] :=
    readDocument_of_code rfl rfl
  have hmem : (⟨.code .fenced none none "", some ⟨⟨1, 0⟩, ⟨1, 3⟩⟩, []⟩ : Node) ∈
      subnodes (readDocument "~~~") := by
    rw [hread]
    simp [subnodes]
  have hsize : Text.byteLength "~~~".toList < UInt32.size := by decide
  exact ⟨hsize, hread, hmem, (type_of_code hsize hmem rfl).2.1.mpr (.inl rfl)⟩

/-- Four columns further to the right they are the content of indented code, and its token is the same. -/
theorem type_of_indentedTildes :
    readDocument "    ~~~" = [⟨.code .indented none none "~~~", some ⟨⟨1, 0⟩, ⟨1, 7⟩⟩, []⟩] ∧
      (tokensOf "    ~~~" (readDocument "    ~~~")).map Token.type = [.fence] := by
  have hread : readDocument "    ~~~" =
      [⟨.code .indented none none "~~~", some ⟨⟨1, 0⟩, ⟨1, 7⟩⟩, []⟩] :=
    readDocument_of_code rfl rfl
  refine ⟨hread, ?_⟩
  rw [hread]
  simp only [tokensOf, List.map_cons, List.map_nil]
  rfl

end Tildes

end DocLint
