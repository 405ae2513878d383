import DocLint.Proofs.Text.Slice
import DocLint.Proofs.Token.Layers
import Mathlib.Data.List.Forall2
import Mathlib.Data.List.TakeWhile

/-!
# Tokens in the shape of a tree

The tokens of a tree have its shape, and each of them is told by its node: the type by the kind, the lines and bytes
by the position, what the token holds by the value of the node or by the source that it spans. Tokens of code have no
tokens inside them.
-/

namespace DocLint

set_option autoImplicit false

open Markdown (Node NodeKind CodeStyle Position CodeIsLeaf readDocument)

/-- What stands in the source between the ends of a span. -/
def IsSlice (source : String) (span : Span) (s : String) : Prop :=
  ∃ before after, source.toList = before ++ s.toList ++ after ∧ Text.byteLength before = span.start ∧
    Text.byteLength (before ++ s.toList) = span.stop

/-- Blanks and a fence begin what a span covers. -/
def FenceAt (source : String) (span : Span) : Prop :=
  ∃ s blanks fence rest, IsSlice source span s ∧ s.toList = blanks ++ fence ++ rest ∧
    (∀ c ∈ blanks, c = ' ' ∨ c = '\t') ∧ (fence = ['`', '`', '`'] ∨ fence = ['~', '~', '~'])

/-- The type that a kind of node is assigned. Of code, the source tells whether it is a fence. -/
inductive HasType (source : String) (span : Span) : NodeKind → TokenType → Prop where
  | heading (level : Nat) : HasType source span (.heading level) .heading
  | paragraph : HasType source span .paragraph .paragraph
  | blockQuote : HasType source span .blockQuote .blockQuote
  | list : HasType source span .list .list
  | listItem : HasType source span .listItem .listItem
  | fence (style : CodeStyle) (lang info : Option String) (value : String) : FenceAt source span →
    HasType source span (.code style lang info value) .fence
  | codeBlock (style : CodeStyle) (lang info : Option String) (value : String) : ¬ FenceAt source span →
    HasType source span (.code style lang info value) .codeBlock
  | html (value : String) : HasType source span (.html value) .html
  | horizontalRule : HasType source span .thematicBreak .horizontalRule
  | yaml (value : String) : HasType source span (.yaml value) .frontMatter
  | toml (value : String) : HasType source span (.toml value) .frontMatter
  | table : HasType source span .table .table
  | tableRow : HasType source span .tableRow .tableRow
  | tableCell : HasType source span .tableCell .tableCell
  | definition : HasType source span .definition .definition
  | footnoteDefinition : HasType source span .footnoteDefinition .footnoteDefinition
  | math (value : String) : HasType source span (.math value) .math
  | text (value : String) : HasType source span (.text value) .text
  | codeInline (value : String) : HasType source span (.inlineCode value) .codeInline
  | emphasis : HasType source span .emphasis .emphasis
  | strong : HasType source span .strong .strong
  | strikethrough : HasType source span .strikethrough .strikethrough
  | link : HasType source span .link .link
  | image : HasType source span .image .image
  | lineBreak : HasType source span .lineBreak .lineBreak
  | linkReference : HasType source span .linkReference .linkReference
  | imageReference : HasType source span .imageReference .imageReference
  | footnoteReference : HasType source span .footnoteReference .footnoteReference
  | inlineMath (value : String) : HasType source span (.inlineMath value) .inlineMath
  | other : HasType source span .other .other

/-- Kinds of nodes that keep what they hold as it is meant, not as it is written. -/
inductive HasValue : NodeKind → String → Prop where
  | code (style : CodeStyle) (lang info : Option String) (value : String) :
    HasValue (.code style lang info value) value
  | inlineCode (value : String) : HasValue (.inlineCode value) value
  | text (value : String) : HasValue (.text value) value
  | html (value : String) : HasValue (.html value) value
  | yaml (value : String) : HasValue (.yaml value) value
  | toml (value : String) : HasValue (.toml value) value
  | math (value : String) : HasValue (.math value) value
  | inlineMath (value : String) : HasValue (.inlineMath value) value

/-- What the token of a node holds: the value of the node, or else the source that it spans if there is any. -/
inductive HasContent (source : String) (span : Span) (kind : NodeKind) : String → Prop where
  | value {v : String} : HasValue kind v → HasContent source span kind v
  | slice {s : String} : (∀ v, ¬ HasValue kind v) → IsSlice source span s → HasContent source span kind s
  | nothing : (∀ v, ¬ HasValue kind v) → (∀ s, ¬ IsSlice source span s) → HasContent source span kind ""

/-- Only code has information: its language, and what is written after it. -/
inductive HasInfo : NodeKind → String → Prop where
  | rest (style : CodeStyle) (lang info value : String) :
    HasInfo (.code style (some lang) (some info) value) (lang ++ " " ++ info)
  | lang (style : CodeStyle) (lang value : String) : HasInfo (.code style (some lang) none value) lang
  | noLang (style : CodeStyle) (info : Option String) (value : String) : HasInfo (.code style none info value) ""
  | noCode {kind : NodeKind} : kind.isCode = false → HasInfo kind ""

/-- Every number of a position has 32 bits at most. -/
def Markdown.Position.Fits (p : Position) : Prop :=
  p.start.offset < UInt32.size ∧ p.stop.offset < UInt32.size ∧ p.start.line < UInt32.size ∧
    p.stop.line < UInt32.size

/-- The bytes and the lines of a position. Where one of its numbers is too large, the lowest 32 bits of each are
kept. -/
inductive HasPlace : Option Position → Span → Nat → Nat → Prop where
  | placed (p : Position) : p.Fits → HasPlace (some p) ⟨p.start.offset, p.stop.offset⟩ p.start.line p.stop.line
  | cut (p : Position) : ¬ p.Fits →
    HasPlace (some p) ⟨p.start.offset % UInt32.size, p.stop.offset % UInt32.size⟩ (p.start.line % UInt32.size)
      (p.stop.line % UInt32.size)
  | unplaced : HasPlace none ⟨0, 0⟩ 1 1

/-- A token is told by a node, apart from the tokens inside it. -/
structure TokenFor (source : String) (n : Node) (t : Token) : Prop where
  place : HasPlace n.position t.span t.line t.endLine
  type : HasType source t.span n.kind t.type
  content : HasContent source t.span n.kind t.content
  info : HasInfo n.kind t.info

/-- Tokens in the shape of some nodes, each told by its node. -/
inductive Mirrors (source : String) : List Node → List Token → Prop where
  | nil : Mirrors source [] []
  | cons {n : Node} {t : Token} {nodes : List Node} {tokens : List Token} : TokenFor source n t →
    Mirrors source n.children t.children → Mirrors source nodes tokens → Mirrors source (n :: nodes) (t :: tokens)

section Parts
variable {source s content info : String} {span : Span} {kind : NodeKind} {type : TokenType}

theorem slice?_eq_some_iff_isSlice : span.slice? source = some s ↔ IsSlice source span s :=
  Text.slice?_eq_some_iff

theorem slice?_eq_none_iff : span.slice? source = none ↔ ∀ s, ¬ IsSlice source span s := by
  simp only [← slice?_eq_some_iff_isSlice, Option.eq_none_iff_forall_ne_some]

/-- The blanks in front of a fence are those that are passed over. -/
theorem dropWhile_blanks {blanks fence rest : List Char} (hblanks : ∀ c ∈ blanks, c = ' ' ∨ c = '\t')
    (hfence : fence = ['`', '`', '`'] ∨ fence = ['~', '~', '~']) :
    (blanks ++ fence ++ rest).dropWhile (fun c => c == ' ' || c == '\t') = fence ++ rest := by
  rw [List.append_assoc, List.dropWhile_append_of_pos (by simpa using hblanks)]
  rcases hfence with rfl | rfl <;> rfl

theorem opensWithFence_iff : opensWithFence source span = true ↔ FenceAt source span := by
  unfold opensWithFence
  constructor
  · intro h
    split at h
    · next s hslice =>
      have hblanks (c : Char) (hc : c ∈ s.toList.takeWhile fun c => c == ' ' || c == '\t') : c = ' ' ∨ c = '\t' := by
        simpa using List.mem_takeWhile_imp hc
      have hsplit := List.takeWhile_append_dropWhile (p := fun c => c == ' ' || c == '\t') (l := s.toList)
      simp only [Bool.or_eq_true, List.isPrefixOf_iff_prefix] at h
      obtain ⟨fence, hfence, rest, hrest⟩ : ∃ fence, (fence = ['`', '`', '`'] ∨ fence = ['~', '~', '~']) ∧
          fence <+: s.toList.dropWhile fun c => c == ' ' || c == '\t' :=
        h.elim (fun h => ⟨_, .inl rfl, h⟩) fun h => ⟨_, .inr rfl, h⟩
      refine ⟨s, _, fence, rest, slice?_eq_some_iff_isSlice.mp hslice, ?_, hblanks, hfence⟩
      rw [List.append_assoc, hrest, hsplit]
    · cases h
  · rintro ⟨s, blanks, fence, rest, hslice, hs, hblanks, hfence⟩
    rw [slice?_eq_some_iff_isSlice.mpr hslice]
    simp only [hs, dropWhile_blanks hblanks hfence]
    rcases hfence with rfl | rfl <;> simp

theorem hasType_iff : HasType source span kind type ↔ type = tokenType source span kind := by
  constructor
  · intro h
    cases h with
    | fence _ _ _ _ hfence => rw [tokenType, if_pos (opensWithFence_iff.mpr hfence)]
    | codeBlock _ _ _ _ hno => rw [tokenType, if_neg (mt opensWithFence_iff.mp hno)]
    | _ => rfl
  · rintro rfl
    cases kind with
    | code style lang info value =>
      rw [tokenType]
      split
      · next h => exact .fence style lang info value (opensWithFence_iff.mp h)
      · next h => exact .codeBlock style lang info value (mt opensWithFence_iff.mpr h)
    | _ => constructor

theorem hasValue_iff {v : String} : HasValue kind v ↔ literalValue? kind = some v := by
  constructor
  · intro h
    cases h <;> rfl
  · intro h
    cases kind with
    | code _ _ _ _ | inlineCode _ | text _ | html _ | yaml _ | toml _ | math _ | inlineMath _ =>
      obtain rfl := Option.some.inj h
      constructor
    | _ => cases h

theorem hasContent_iff : HasContent source span kind content ↔ content = contentOf source span kind := by
  unfold contentOf
  have hnone : (∀ v, ¬ HasValue kind v) ↔ literalValue? kind = none := by
    simp only [hasValue_iff, Option.eq_none_iff_forall_ne_some]
  constructor
  · intro h
    cases h with
    | value hvalue => rw [hasValue_iff.mp hvalue]
    | slice hno hslice => rw [hnone.mp hno, slice?_eq_some_iff_isSlice.mpr hslice, Option.getD_some]
    | nothing hno hslice => rw [hnone.mp hno, slice?_eq_none_iff.mpr hslice, Option.getD_none]
  · rintro rfl
    cases hvalue : literalValue? kind with
    | some v => exact .value (hasValue_iff.mpr hvalue)
    | none =>
      cases hslice : span.slice? source with
      | some s => exact .slice (hnone.mpr hvalue) (slice?_eq_some_iff_isSlice.mp hslice)
      | none => exact .nothing (hnone.mpr hvalue) (slice?_eq_none_iff.mp hslice)

theorem hasInfo_iff : HasInfo kind info ↔ info = infoOf kind := by
  constructor
  · intro h
    cases h with
    | noCode hno =>
      cases kind with
      | code _ _ _ _ => cases hno
      | _ => rfl
    | _ => rfl
  · rintro rfl
    cases kind with
    | code style lang info value =>
      cases lang with
      | none => exact .noLang style info value
      | some lang =>
        cases info with
        | none => exact .lang style lang value
        | some info => exact .rest style lang info value
    | _ => exact .noCode rfl

theorem hasPlace_iff {position : Option Position} {line endLine : Nat} :
    HasPlace position span line endLine ↔
      span = spanOf position ∧ line = (linesOfPosition position).1 ∧ endLine = (linesOfPosition position).2 := by
  have hfits (p : Position) (hp : p.Fits) : spanOf (some p) = ⟨p.start.offset, p.stop.offset⟩ ∧
      linesOfPosition (some p) = (p.start.line, p.stop.line) := by
    obtain ⟨hstart, hstop, hfirst, hlast⟩ := hp
    simp only [spanOf, linesOfPosition, narrow_of_lt, hstart, hstop, hfirst, hlast, and_self]
  constructor
  · intro h
    cases h with
    | placed p hp =>
      rw [(hfits p hp).1, (hfits p hp).2]
      exact ⟨rfl, rfl, rfl⟩
    | cut p _ => exact ⟨rfl, rfl, rfl⟩
    | unplaced => exact ⟨rfl, rfl, rfl⟩
  · rintro ⟨rfl, rfl, rfl⟩
    cases position with
    | none => exact .unplaced
    | some p =>
      by_cases hp : p.Fits
      · rw [(hfits p hp).1, (hfits p hp).2]
        exact .placed p hp
      · exact .cut p hp

end Parts

section Shape
variable {source : String} {n : Node} {t : Token} {nodes : List Node} {tokens : List Token}

theorem tokenFor_tokenOf (source : String) (n : Node) : TokenFor source n (tokenOf source n) where
  place := hasPlace_iff.mpr ⟨rfl, rfl, rfl⟩
  type := hasType_iff.mpr rfl
  content := hasContent_iff.mpr rfl
  info := hasInfo_iff.mpr rfl

theorem TokenFor.eq_tokenOf (h : TokenFor source n t) (hchildren : t.children = tokensOf source n.children) :
    t = tokenOf source n := by
  obtain ⟨hspan, hline, hendLine⟩ := hasPlace_iff.mp h.place
  have htype := hasType_iff.mp h.type
  have hcontent := hasContent_iff.mp h.content
  have hinfo := hasInfo_iff.mp h.info
  rw [hspan] at htype hcontent
  cases t
  rw [tokenOf, Token.mk.injEq]
  exact ⟨htype, hline, hendLine, hspan, hcontent, hinfo, hchildren⟩

/-- Nothing but the tokens of the nodes mirrors them. -/
theorem mirrors_iff : Mirrors source nodes tokens ↔ tokens = tokensOf source nodes := by
  constructor
  · intro h
    induction h with
    | nil => rw [tokensOf]
    | cons hfirst _ _ ihchildren ihrest =>
      rw [hfirst.eq_tokenOf ihchildren, ihrest, tokensOf_eq_map, tokensOf_eq_map, List.map_cons]
  · rintro rfl
    fun_induction subnodes nodes with
    | case1 =>
      rw [tokensOf]
      exact .nil
    | case2 kind position children rest ihchildren ihrest =>
      rw [tokensOf]
      exact .cons (tokenFor_tokenOf source ⟨kind, position, children⟩) ihchildren ihrest

theorem isCode_of_tokenType {span : Span} {kind : NodeKind}
    (h : tokenType source span kind = .fence ∨ tokenType source span kind = .codeBlock) : kind.isCode = true := by
  cases kind with
  | code _ _ _ _ => rfl
  | _ => simp [tokenType] at h

end Shape

/-- The tokens of a tree mirror it, and nothing else does. In the order of a walk they correspond to the nodes, each
told by its node. If no code in the tree holds other nodes, the tokens of code have none inside them, and the tree
that is read from a text is such a tree. -/
theorem tokens_mirror_nodes (source : String) (nodes : List Node) :
    (∀ tokens, Mirrors source nodes tokens ↔ tokens = tokensOf source nodes) ∧
    List.Forall₂ (TokenFor source) (subnodes nodes) (preorder (tokensOf source nodes)) ∧
    ((∀ n ∈ subnodes nodes, CodeIsLeaf n) →
      ∀ t ∈ preorder (tokensOf source nodes), t.type = .fence ∨ t.type = .codeBlock → t.children = []) ∧
    (∀ stream, Parser.markdown.parse source = .ok stream →
      stream.tokens = tokensOf source (readDocument source) ∧ ∀ n ∈ subnodes (readDocument source), CodeIsLeaf n) := by
  refine ⟨fun _ => mirrors_iff, ?one_to_one, ?leaves, ?parsed⟩
  case one_to_one =>
    rw [preorder_tokensOf, List.forall₂_map_right_iff, List.forall₂_same]
    exact fun n _ => tokenFor_tokenOf source n
  case leaves =>
    intro hleaf t ht hcode
    rw [preorder_tokensOf] at ht
    obtain ⟨n, hn, rfl⟩ := List.mem_map.mp ht
    rw [tokenOf, hleaf n hn (isCode_of_tokenType hcode), tokensOf]
  case parsed =>
    intro stream hparse
    exact ⟨tokens_of_markdown hparse, fun n hn => all_of_mem_subnodes (Markdown.codeIsLeaf_readDocument source) hn⟩

end DocLint
