import DocLint.Proofs.Markdown.Inline
import DocLint.Proofs.Markdown.Outline

/-!
# The layers of a document, and its code

From the blocks of an outline the tree of a document is made without changing its code: lists are put around
items, and texts become nodes that hold none. So the tree has two layers. Blocks hold blocks, down to those that
hold text, and below these there is inline content only. In the whole tree, the source of code opens with a
fence exactly if the code is fenced or its value does, and code holds no other nodes.
-/

namespace DocLint.Markdown

set_option autoImplicit false

variable {text : String}

/-- Whether a construct is a block of code. -/
def NodeKind.isCode : NodeKind → Bool
  | .code _ _ _ _ => true
  | _ => false

/-- Blocks whose content is text. -/
def NodeKind.holdsText : NodeKind → Bool
  | .heading _ | .paragraph | .tableCell => true
  | _ => false

/-- Blocks that hold other blocks, or nothing. -/
def NodeKind.isFlow : NodeKind → Bool
  | .blockQuote | .list | .listItem | .code _ _ _ _ | .html _ | .thematicBreak | .yaml _ | .toml _ | .table
  | .tableRow | .definition | .footnoteDefinition | .math _ => true
  | _ => false

/-- A node that is code opens with a fence as its style and its value tell. -/
def KindIn (text : String) (kind : NodeKind) (position : Option Position) : Prop :=
  ∀ style lang info value, kind = .code style lang info value → CodeIn text position style value

theorem kindIn_of_not_code {kind : NodeKind} (h : kind.isCode = false) (position : Option Position) :
    KindIn text kind position := by
  rintro style lang info value rfl
  cases h

theorem isCode_of_holdsText {kind : NodeKind} (h : kind.holdsText = true) : kind.isCode = false := by
  cases kind with
  | code _ _ _ _ => cases h
  | _ => rfl

theorem isCode_of_isInline {kind : NodeKind} (h : kind.isInline = true) : kind.isCode = false := by
  cases kind with
  | code _ _ _ _ => cases h
  | _ => rfl

/-- `KindIn` for what holds some parts, and code holds none. -/
structure SelfIn {α : Type} (text : String) (kind : NodeKind) (position : Option Position) (parts : List α) :
    Prop where
  opens : KindIn text kind position
  leaf : kind.isCode = true → parts = []

theorem selfIn_of_not_code {α : Type} {kind : NodeKind} (h : kind.isCode = false) (position : Option Position)
    (parts : List α) : SelfIn text kind position parts :=
  ⟨kindIn_of_not_code h position, fun hcode => absurd hcode (Bool.eq_false_iff.mp h)⟩

/-- `SelfIn` for a draft and all drafts inside it, which are in their layer. -/
inductive DraftIn (text : String) : Draft → Prop where
  | node {kind : NodeKind} {position : Position} {children : List Draft} :
    kind.isFlow = true → SelfIn text kind position children → (∀ d ∈ children, DraftIn text d) →
    DraftIn text (.node kind position children)
  | text {kind : NodeKind} (position : Position) (cells : List Cell) :
    kind.holdsText = true → DraftIn text (.text kind position cells)
  | definition (label : List Char) (position : Position) : DraftIn text (.definition label position)
  | footnote (label : List Char) (position : Position) {children : List Draft} :
    (∀ d ∈ children, DraftIn text d) → DraftIn text (.footnote label position children)
  | item (marker : Char) (position : Position) {children : List Draft} :
    (∀ d ∈ children, DraftIn text d) → DraftIn text (.item marker position children)

section Lists
open Draft

def ListsIn (text : String) (lists : OpenLists) : Prop :=
  ∀ l ∈ lists, ∀ d ∈ l.2, DraftIn text d

variable {lists : OpenLists} {done items drafts : List Draft}

theorem draftIn_list {blocks : List Draft} (h : ∀ d ∈ blocks, DraftIn text d) (position : Position) :
    DraftIn text (.node .list position blocks) :=
  .node rfl (selfIn_of_not_code rfl _ _) h

theorem draftIn_addBlock {d : Draft} (hd : DraftIn text d) (hlists : ListsIn text lists)
    (hdone : ∀ d ∈ done, DraftIn text d) :
    ListsIn text (addBlock d lists done).1 ∧ ∀ e ∈ (addBlock d lists done).2, DraftIn text e := by
  unfold addBlock
  split
  · exact ⟨List.forall_mem_nil _, List.forall_mem_cons.mpr ⟨hd, hdone⟩⟩
  · obtain ⟨hfirst, hrest⟩ := List.forall_mem_cons.mp hlists
    exact ⟨List.forall_mem_cons.mpr ⟨List.forall_mem_cons.mpr ⟨hd, hfirst⟩, hrest⟩, hdone⟩

theorem draftIn_endLists (stop : Point) (n : Nat) (hlists : ListsIn text lists)
    (hdone : ∀ d ∈ done, DraftIn text d) :
    ListsIn text (endLists stop n lists done).1 ∧ ∀ d ∈ (endLists stop n lists done).2, DraftIn text d := by
  fun_induction endLists stop n lists done with
  | case1 => exact ⟨hlists, hdone⟩
  | case2 => exact ⟨hlists, hdone⟩
  | case3 n start blocks rest done rest' done' heq ih =>
    obtain ⟨hblocks, hrest⟩ := List.forall_mem_cons.mp hlists
    have hlist : DraftIn text (.node .list ⟨start, stop⟩ blocks.reverse) :=
      draftIn_list (fun d hd => hblocks d (List.mem_reverse.mp hd)) _
    obtain ⟨hrest', hdone'⟩ := heq ▸ draftIn_addBlock hlist hrest hdone
    exact ih hrest' hdone'

theorem draftIn_fillLists (spans : List ListSpan) (n : Nat) (hlists : ListsIn text lists)
    (hdone : ∀ d ∈ done, DraftIn text d) (hitems : ∀ d ∈ items, DraftIn text d) :
    ∀ d ∈ fillLists spans lists done n items, DraftIn text d := by
  fun_induction fillLists spans lists done n items with
  | case1 lists done n =>
    intro d hd
    exact hdone d (List.mem_reverse.mp hd)
  | case2 lists done n d rest begun ended lists₁ done₁ hadd lists₂ done₂ hend ih =>
    obtain ⟨hd, hrest⟩ := List.forall_mem_cons.mp hitems
    have hbegun : ListsIn text (begun ++ lists) := by
      refine List.forall_mem_append.mpr ⟨?_, hlists⟩
      intro l hl
      obtain ⟨-, -, rfl⟩ := List.mem_map.mp hl
      exact List.forall_mem_nil _
    obtain ⟨hlists₁, hdone₁⟩ := hadd ▸ draftIn_addBlock hd hbegun hdone
    obtain ⟨hlists₂, hdone₂⟩ := hend ▸ draftIn_endLists d.position.stop ended hlists₁ hdone₁
    exact ih hlists₂ hdone₂ hrest

theorem draftIn_listsOf (inside : Bool) (hitems : ∀ d ∈ items, DraftIn text d) :
    ∀ d ∈ listsOf inside items.reverse, DraftIn text d :=
  draftIn_fillLists _ _ (List.forall_mem_nil _) (List.forall_mem_nil _)
    fun d hd => hitems d (List.mem_reverse.mp hd)

theorem draftIn_joinItems (inside : Bool) (hitems : ∀ d ∈ items, DraftIn text d)
    (h : ∀ d ∈ drafts, DraftIn text d) : ∀ d ∈ joinItems inside items drafts, DraftIn text d := by
  fun_induction joinItems inside items drafts with
  | case1 items => exact draftIn_listsOf inside hitems
  | case2 items d rest _ ih =>
    obtain ⟨hd, hrest⟩ := List.forall_mem_cons.mp h
    exact ih (List.forall_mem_cons.mpr ⟨hd, hitems⟩) hrest
  | case3 items d rest _ ih =>
    obtain ⟨hd, hrest⟩ := List.forall_mem_cons.mp h
    rw [List.forall_mem_append, List.forall_mem_cons]
    exact ⟨draftIn_listsOf inside hitems, hd, ih (List.forall_mem_nil _) hrest⟩

theorem draftIn_withLists (inside : Bool) (h : ∀ d ∈ drafts, DraftIn text d) :
    ∀ d ∈ withLists inside drafts, DraftIn text d :=
  draftIn_joinItems inside (List.forall_mem_nil _) h

end Lists

section Drafts

theorem draftIn_paragraph (open' : Option Paragraph) : ∀ d ∈ Paragraph.drafts open', DraftIn text d := by
  intro d hd
  cases open' with
  | none => exact absurd hd List.not_mem_nil
  | some p =>
    rw [List.mem_singleton.mp hd]
    exact .text _ _ rfl

theorem draftIn_definitions (source : List Char) (fuel : Nat) (cells : List Cell) :
    ∀ d ∈ (splitDefinitions source fuel cells).1, DraftIn text d := by
  induction fuel generalizing cells with
  | zero => exact List.forall_mem_nil _
  | succ fuel ih =>
    rw [splitDefinitions]
    split
    · exact List.forall_mem_nil _
    · exact List.forall_mem_cons.mpr ⟨.definition _ _, ih _⟩

theorem draftIn_leaf {leaf : Leaf} {position : Position} (h : LeafIn text leaf position) :
    ∀ d ∈ leafDraft leaf position, DraftIn text d := by
  cases leaf with
  | code style lang info value =>
    refine List.forall_mem_singleton.mpr (.node rfl ⟨?_, fun _ => rfl⟩ (List.forall_mem_nil _))
    intro style' lang' info' value' heq
    cases heq
    exact h style lang info value rfl
  | thematicBreak => exact List.forall_mem_singleton.mpr (.node rfl (selfIn_of_not_code rfl _ _) (List.forall_mem_nil _))
  | heading level text => exact List.forall_mem_singleton.mpr (.text _ _ rfl)
  | html value => exact List.forall_mem_singleton.mpr (.node rfl (selfIn_of_not_code rfl _ _) (List.forall_mem_nil _))
  | table rows =>
    refine List.forall_mem_singleton.mpr (.node rfl (selfIn_of_not_code rfl _ _) ?_)
    intro row hrow
    obtain ⟨line, -, rfl⟩ := List.mem_map.mp hrow
    refine .node rfl (selfIn_of_not_code rfl _ _) ?_
    intro cell hcell
    obtain ⟨c, -, rfl⟩ := List.mem_map.mp hcell
    exact .text _ _ rfl
  | content cells attached => exact List.forall_mem_nil _
  | underline cells eol => exact List.forall_mem_nil _

theorem draftIn_container (kind : ContainerKind) (position : Position) {children : List Draft}
    (h : ∀ d ∈ children, DraftIn text d) : DraftIn text (containerDraft kind position children) := by
  cases kind with
  | blockQuote => exact .node rfl (selfIn_of_not_code rfl _ _) h
  | listItem marker size blankInitial => exact .item marker position h
  | footnoteDefinition label => exact .footnote _ position h

theorem draftIn_draftsOf (source : List Char) (open' : Option Paragraph) {blocks : List Block}
    (h : BlocksIn text blocks) : ∀ d ∈ draftsOf source open' blocks, DraftIn text d := by
  fun_induction draftsOf source open' blocks with
  | case1 open' => exact draftIn_paragraph open'
  | case2 _ _ _ _ _ _ _ _ _ _ _ ih => exact ih (blocksIn_cons.mp h).2
  | case3 open' cells _ position rest definitions _ heq _ _ ih =>
    have hdefinitions : ∀ d ∈ (splitDefinitions source cells.length cells).1, DraftIn text d :=
      draftIn_definitions source cells.length cells
    rw [heq] at hdefinitions
    rw [List.forall_mem_append, List.forall_mem_append]
    exact ⟨⟨draftIn_paragraph open', hdefinitions⟩, ih (blocksIn_cons.mp h).2⟩
  | case4 cells _ position rest p ih =>
    exact List.forall_mem_cons.mpr ⟨.text _ _ rfl, ih (blocksIn_cons.mp h).2⟩
  | case5 _ _ _ _ ih => exact ih (blocksIn_cons.mp h).2
  | case6 open' leaf position rest _ _ ih =>
    obtain ⟨hleaf, hrest⟩ := blocksIn_cons.mp h
    rw [List.forall_mem_append, List.forall_mem_append]
    exact ⟨⟨draftIn_paragraph open', draftIn_leaf (blocksIn_leaf.mp hleaf)⟩, ih hrest⟩
  | case7 open' kind position blocks rest ihblocks ihrest =>
    obtain ⟨hblocks, hrest⟩ := blocksIn_cons.mp h
    rw [List.forall_mem_append, List.forall_mem_cons]
    exact ⟨draftIn_paragraph open',
      draftIn_container kind position (draftIn_withLists true (ihblocks (blocksIn_container.mp hblocks))),
      ihrest hrest⟩

end Drafts

section Nodes

/-- `KindIn` for a node and all nodes inside it. -/
def NodeIn (text : String) : Node → Prop :=
  Node.All fun n => KindIn text n.kind n.position

/-- A node of the upper layer: a block that holds text, with inline content inside it, or a block with blocks
inside it. -/
inductive LayeredIn (text : String) : Node → Prop where
  | text {n : Node} : n.kind.holdsText = true → (∀ c ∈ n.children, c.Inline) → LayeredIn text n
  | flow {n : Node} : n.kind.isFlow = true → SelfIn text n.kind n.position n.children →
    (∀ c ∈ n.children, LayeredIn text c) → LayeredIn text n

theorem Node.All.imp {P Q : Node → Prop} (h : ∀ n, P n → Q n) {n : Node} (hn : n.All P) : n.All Q := by
  induction hn with
  | mk hroot _ ih => exact .mk (h _ hroot) ih

theorem LayeredIn.nodeIn {n : Node} (h : LayeredIn text n) : NodeIn text n := by
  induction h with
  | text hkind hchildren =>
    refine .mk (kindIn_of_not_code (isCode_of_holdsText hkind) _) ?_
    intro c hc
    exact (hchildren c hc).imp fun n hn => kindIn_of_not_code (isCode_of_isInline hn) n.position
  | flow _ hself _ ih => exact .mk hself.opens ih

/-- Code holds no other nodes. -/
def CodeIsLeaf (n : Node) : Prop :=
  n.kind.isCode = true → n.children = []

theorem codeIsLeaf_of_not_code {n : Node} (h : n.kind.isCode = false) : CodeIsLeaf n :=
  fun hcode => absurd hcode (Bool.eq_false_iff.mp h)

theorem LayeredIn.codeIsLeaf {n : Node} (h : LayeredIn text n) : n.All CodeIsLeaf := by
  induction h with
  | text hkind hchildren =>
    refine .mk (codeIsLeaf_of_not_code (isCode_of_holdsText hkind)) ?_
    intro c hc
    exact (hchildren c hc).imp fun n hn => codeIsLeaf_of_not_code (isCode_of_isInline hn)
  | flow _ hself _ ih => exact .mk hself.leaf ih

theorem layeredIn_leaf {kind : NodeKind} (hflow : kind.isFlow = true) (hcode : kind.isCode = false)
    (position : Option Position) : LayeredIn text ⟨kind, position, []⟩ :=
  .flow hflow (selfIn_of_not_code hcode position []) (List.forall_mem_nil _)

theorem layeredIn_nodesOfDrafts (ctx : TextContext) (place : TaskPlace) {drafts : List Draft}
    (h : ∀ d ∈ drafts, DraftIn text d) : ∀ n ∈ nodesOfDrafts ctx place drafts, LayeredIn text n := by
  fun_induction nodesOfDrafts ctx place drafts with
  | case1 => exact List.forall_mem_nil _
  | case2 ctx _ kind position children rest ihchildren ihrest =>
    obtain ⟨hd, hrest⟩ := List.forall_mem_cons.mp h
    cases hd with
    | node hflow hself hchildren =>
      refine List.forall_mem_cons.mpr ⟨.flow hflow ⟨hself.opens, ?_⟩ (ihchildren hchildren), ihrest hrest⟩
      intro hcode
      rw [hself.leaf hcode, nodesOfDrafts]
  | case3 ctx place kind position cells rest ih =>
    obtain ⟨hd, hrest⟩ := List.forall_mem_cons.mp h
    cases hd with
    | text _ _ hkind =>
      refine List.forall_mem_cons.mpr ⟨?_, ih hrest⟩
      -- with or without the mark of a task, the children are read from the cells
      split
      · exact .text rfl (inline_readTaskParagraph ctx true position cells)
      · exact .text rfl (inline_readTaskParagraph ctx false position cells)
      · exact .text hkind (inline_readText ctx cells)
  | case4 _ _ label position rest ih =>
    obtain ⟨-, hrest⟩ := List.forall_mem_cons.mp h
    exact List.forall_mem_cons.mpr ⟨layeredIn_leaf rfl rfl _, ih hrest⟩
  | case5 _ _ label position children rest ihchildren ihrest =>
    obtain ⟨hd, hrest⟩ := List.forall_mem_cons.mp h
    cases hd with
    | footnote _ _ hchildren =>
      exact List.forall_mem_cons.mpr ⟨.flow rfl (selfIn_of_not_code rfl _ _) (ihchildren hchildren), ihrest hrest⟩
  | case6 _ _ marker position children rest ihchildren ihrest =>
    obtain ⟨hd, hrest⟩ := List.forall_mem_cons.mp h
    cases hd with
    | item _ _ hchildren =>
      exact List.forall_mem_cons.mpr ⟨.flow rfl (selfIn_of_not_code rfl _ _) (ihchildren hchildren), ihrest hrest⟩

end Nodes

section Document

theorem LinesIn.of_suffix {source done : List Char} {rest lines : List Line} (h : LinesIn source done lines)
    (hsuffix : rest <:+ lines) : ∃ done', LinesIn source done' rest := by
  induction h with
  | nil done =>
    rw [List.suffix_nil.mp hsuffix]
    exact ⟨done, .nil done⟩
  | cons p hlines ih =>
    rcases List.suffix_cons_iff.mp hsuffix with rfl | hsuffix
    · exact ⟨_, .cons p hlines⟩
    · exact ih hsuffix

theorem splitAtFence_suffix {marker : Char} {lines inside after : List Line} {fence : Line}
    (h : splitAtFence marker lines = some (inside, fence, after)) : after <:+ lines := by
  induction lines generalizing inside with
  | nil => cases h
  | cons line rest ih =>
    rw [splitAtFence] at h
    split at h
    · cases h
      exact List.suffix_cons _ _
    · obtain ⟨⟨inside', fence', after'⟩, hsplit, heq⟩ := Option.map_eq_some_iff.mp h
      cases heq
      exact (ih hsplit).trans (List.suffix_cons line rest)

/-- Front matter is a block, and the lines after it go on to the end. -/
theorem frontMatter?_suffix {lines rest : List Line} {node : Node}
    (h : frontMatter? lines = some (node, rest)) : LayeredIn text node ∧ rest <:+ lines := by
  unfold frontMatter? at h
  split at h
  · next first more marker _ =>
    obtain ⟨⟨inside, fence, after⟩, hsplit, heq⟩ := Option.map_eq_some_iff.mp h
    cases heq
    refine ⟨?_, (splitAtFence_suffix hsplit).trans (List.suffix_cons first more)⟩
    unfold frontMatterKind
    split
    · exact layeredIn_leaf rfl rfl _
    · exact layeredIn_leaf rfl rfl _
  · cases h

theorem layeredIn_readLines (nests : Bool) {done : List Char} {lines : List Line}
    (h : LinesIn text.toList done lines) : ∀ n ∈ readLines text nests lines, LayeredIn text n := by
  obtain ⟨done', houtline⟩ := (outlineIn_empty nests).foldl h
  have hblocks : BlocksIn text (Outline.ofLines nests lines).toBlocks := blocksIn_toBlocks houtline
  exact layeredIn_nodesOfDrafts _ _ (draftIn_withLists false (draftIn_draftsOf _ none hblocks))

/-- The tree of a document has the two layers. -/
theorem layeredIn_readDocument (text : String) : ∀ n ∈ readDocument text, LayeredIn text n := by
  have hlines := linesIn_linesOf text
  unfold readDocument
  simp only []
  split
  · next node rest hfront =>
    obtain ⟨hnode, hsuffix⟩ := frontMatter?_suffix hfront
    obtain ⟨done, hrest⟩ := hlines.of_suffix hsuffix
    exact List.forall_mem_cons.mpr ⟨hnode, layeredIn_readLines true hrest⟩
  · exact layeredIn_readLines _ hlines

/-- All code in the tree of a document opens with a fence as its style and its value tell. -/
theorem nodeIn_readDocument (text : String) : ∀ n ∈ readDocument text, NodeIn text n :=
  fun n hn => (layeredIn_readDocument text n hn).nodeIn

/-- No code in the tree of a document holds other nodes. -/
theorem codeIsLeaf_readDocument (text : String) : ∀ n ∈ readDocument text, n.All CodeIsLeaf :=
  fun n hn => (layeredIn_readDocument text n hn).codeIsLeaf

end Document

end DocLint.Markdown
