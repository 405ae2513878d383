import DocLint.Markdown.Document

/-!
# Texts hold inline content

Every node that is read from the cells of a text is something that stands in a line: there are no blocks in it.
Pieces keep this while they are joined, matched and put into brackets.
-/

namespace DocLint.Markdown

set_option autoImplicit false

/-- Whether a construct stands in a line of text. HTML may stand there as well as for itself. -/
def NodeKind.isInline : NodeKind → Bool
  | .text _ | .inlineCode _ | .emphasis | .strong | .strikethrough | .link | .image | .lineBreak
  | .linkReference | .imageReference | .footnoteReference | .inlineMath _ | .html _ => true
  | _ => false

/-- A property of a node and of all nodes inside it. -/
inductive Node.All (P : Node → Prop) : Node → Prop where
  | mk {n : Node} : P n → (∀ c ∈ n.children, Node.All P c) → Node.All P n

/-- Inline content, with nothing else inside it. -/
def Node.Inline : Node → Prop :=
  Node.All fun n => n.kind.isInline = true

/-- All nodes of a piece are inline content. -/
inductive Piece.Inline : Piece → Prop where
  | char (cell : Cell) : Inline (.char cell)
  | literal (value : List Char) (position : Position) : Inline (.literal value position)
  | eol (cell : Cell) : Inline (.eol cell)
  | margin (cell : Cell) : Inline (.margin cell)
  | run (delimiter : Delimiter) : Inline (.run delimiter)
  | node {n : Node} : n.Inline → Inline (.node n)
  | span {kind : NodeKind} (position : Position) {pieces : List Piece} :
    kind.isInline = true → (∀ p ∈ pieces, p.Inline) → Inline (.span kind position pieces)

section Nodes

theorem inline_leaf {kind : NodeKind} (h : kind.isInline = true) (position : Option Position) :
    Node.Inline ⟨kind, position, []⟩ :=
  .mk h nofun

theorem inline_addressNode (cells inner : List Cell) : (addressNode cells inner).Inline := by
  refine .mk rfl ?_
  intro c hc
  rw [List.mem_singleton.mp hc]
  exact inline_leaf rfl _

theorem inline_textRun (open' : Option TextRun) : ∀ n ∈ TextRun.nodes open', n.Inline := by
  intro n hn
  cases open' with
  | none => exact absurd hn List.not_mem_nil
  | some t =>
    rw [List.mem_singleton.mp hn]
    exact inline_leaf rfl _

theorem inline_nodesFrom {open' : Option TextRun} {pieces : List Piece} (h : ∀ p ∈ pieces, p.Inline) :
    ∀ n ∈ nodesFrom open' pieces, n.Inline := by
  fun_induction nodesFrom open' pieces with
  | case1 open' => exact inline_textRun open'
  | case2 _ _ _ ih => exact ih (List.forall_mem_cons.mp h).2
  | case3 _ _ _ _ ih => exact ih (List.forall_mem_cons.mp h).2
  | case4 _ _ _ ih => exact ih (List.forall_mem_cons.mp h).2
  | case5 _ _ _ ih => exact ih (List.forall_mem_cons.mp h).2
  | case6 open' n rest ih =>
    obtain ⟨hnode, hrest⟩ := List.forall_mem_cons.mp h
    cases hnode with
    | node hn =>
      rw [List.forall_mem_append, List.forall_mem_cons]
      exact ⟨inline_textRun open', hn, ih hrest⟩
  | case7 open' _ rest ih =>
    rw [List.forall_mem_append]
    exact ⟨inline_textRun open', ih (List.forall_mem_cons.mp h).2⟩
  | case8 open' kind position pieces rest ihpieces ihrest =>
    obtain ⟨hspan, hrest⟩ := List.forall_mem_cons.mp h
    cases hspan with
    | span _ hkind hpieces =>
      rw [List.forall_mem_append, List.forall_mem_cons]
      exact ⟨inline_textRun open', .mk hkind (ihpieces hpieces), ihrest hrest⟩

end Nodes

section Pieces
variable {pieces : List Piece}

theorem inline_chars (cells : List Cell) : ∀ p ∈ cells.map Piece.char, p.Inline := by
  intro p hp
  obtain ⟨c, -, rfl⟩ := List.mem_map.mp hp
  exact .char c

theorem inline_mailPieces (back : List Cell) (skip : Nat) (cells : List Cell) :
    ∀ p ∈ mailPieces back skip cells, p.Inline := by
  fun_induction mailPieces back skip cells with
  | case1 back => exact inline_chars back.reverse
  | case2 _ _ _ _ ih => exact ih
  | case3 back c rest _ before after _ address ih =>
    rw [List.forall_mem_append, List.forall_mem_cons]
    refine ⟨inline_chars _, .node (inline_addressNode _ _), ?_⟩
    split
    · exact List.forall_mem_nil _
    · exact ih _
  | case4 _ _ _ _ _ ih => exact ih
  | case5 _ _ _ _ ih => exact ih

theorem inline_withMail {run : List Cell} (h : ∀ p ∈ pieces, p.Inline) :
    ∀ p ∈ withMail run pieces, p.Inline := by
  fun_induction withMail run pieces with
  | case1 run => exact inline_mailPieces _ _ _
  | case2 _ _ _ ih => exact ih (List.forall_mem_cons.mp h).2
  | case3 run piece rest _ ih =>
    obtain ⟨hpiece, hrest⟩ := List.forall_mem_cons.mp h
    rw [List.forall_mem_append, List.forall_mem_cons]
    exact ⟨inline_mailPieces _ _ _, hpiece, ih hrest⟩

theorem inline_settleMargins (h : ∀ p ∈ pieces, p.Inline) :
    ∀ p ∈ settleMargins pieces, p.Inline := by
  fun_induction settleMargins pieces with
  | case1 cell d rest ih =>
    obtain ⟨-, hchar, hrest⟩ := (List.forall_mem_cons.mp h).imp_right List.forall_mem_cons.mp
    rw [List.forall_mem_cons, List.forall_mem_cons]
    exact ⟨.char cell, hchar, ih hrest⟩
  | case2 kind position pieces rest ihpieces ihrest =>
    obtain ⟨hspan, hrest⟩ := List.forall_mem_cons.mp h
    cases hspan with
    | span _ hkind hpieces =>
      rw [List.forall_mem_cons]
      exact ⟨.span position hkind (ihpieces hpieces), ihrest hrest⟩
  | case3 piece rest _ _ ih =>
    obtain ⟨hpiece, hrest⟩ := List.forall_mem_cons.mp h
    rw [List.forall_mem_cons]
    exact ⟨hpiece, ih hrest⟩
  | case4 => exact h

theorem inline_linkMail (h : ∀ p ∈ pieces, p.Inline) : ∀ p ∈ linkMail pieces, p.Inline := by
  fun_induction linkMail pieces with
  | case1 => exact h
  | case2 kind position pieces rest ihpieces ihrest =>
    obtain ⟨hspan, hrest⟩ := List.forall_mem_cons.mp h
    cases hspan with
    | span _ hkind hpieces =>
      rw [List.forall_mem_cons]
      exact ⟨.span position hkind (inline_withMail (ihpieces hpieces)), ihrest hrest⟩
  | case3 piece rest _ ih =>
    obtain ⟨hpiece, hrest⟩ := List.forall_mem_cons.mp h
    rw [List.forall_mem_cons]
    exact ⟨hpiece, ih hrest⟩

end Pieces

section Attention
variable {pieces done : List Piece}

theorem inline_unmatched (h : ∀ p ∈ pieces, p.Inline) :
    ∀ p ∈ pieces.flatMap Piece.unmatched, p.Inline := by
  intro p hp
  obtain ⟨q, hq, hpq⟩ := List.mem_flatMap.mp hp
  unfold Piece.unmatched at hpq
  split at hpq
  · exact inline_chars _ p hpq
  · rw [List.mem_singleton.mp hpq]
    exact h q hq

theorem inline_findOpening {closing opening : Delimiter} {between found rest : List Piece}
    (hbetween : ∀ p ∈ between, p.Inline) (h : ∀ p ∈ pieces, p.Inline)
    (hfound : findOpening closing between pieces = some (found, opening, rest)) :
    (∀ p ∈ found, p.Inline) ∧ ∀ p ∈ rest, p.Inline := by
  fun_induction findOpening closing between pieces with
  | case1 => cases hfound
  | case2 between opening' rest' hfits =>
    cases hfound
    exact ⟨hbetween, (List.forall_mem_cons.mp h).2⟩
  | case3 between opening' rest' hfits ih =>
    exact ih (List.forall_mem_cons.mpr ⟨.run _, hbetween⟩) (List.forall_mem_cons.mp h).2 hfound
  | case4 between piece rest' _ ih =>
    obtain ⟨hpiece, hrest⟩ := List.forall_mem_cons.mp h
    exact ih (List.forall_mem_cons.mpr ⟨hpiece, hbetween⟩) hrest hfound

theorem inline_delimiter (d : Delimiter) : ∀ p ∈ d.pieces, p.Inline := by
  intro p hp
  unfold Delimiter.pieces at hp
  split at hp
  · exact absurd hp List.not_mem_nil
  · rw [List.mem_singleton.mp hp]
    exact .run d

theorem isInline_spanKind (marker : Char) (taken : Nat) : (spanKind marker taken).isInline = true := by
  unfold spanKind
  split
  · rfl
  · split <;> rfl

theorem inline_closeRun (fuel : Nat) (closing : Delimiter) (h : ∀ p ∈ done, p.Inline) :
    ∀ p ∈ closeRun fuel closing done, p.Inline := by
  have hgivenUp (closing : Delimiter) {done : List Piece} (h : ∀ p ∈ done, p.Inline) :
      ∀ p ∈ closing.pieces ++ done, p.Inline :=
    List.forall_mem_append.mpr ⟨inline_delimiter closing, h⟩
  induction fuel generalizing closing done with
  | zero => exact hgivenUp closing h
  | succ fuel ih =>
    rw [closeRun]
    split
    · exact hgivenUp closing h
    · next between opening rest hopening =>
      obtain ⟨hbetween, hrest⟩ := inline_findOpening (List.forall_mem_nil _) h hopening
      simp only []
      split
      · refine ih _ ?_
        rw [List.cons_append, List.forall_mem_cons, List.forall_mem_append]
        exact ⟨.span _ (isInline_spanKind _ _) (inline_unmatched hbetween), inline_delimiter _, hrest⟩
      · exact hgivenUp closing h

theorem inline_matchRuns (hdone : ∀ p ∈ done, p.Inline) (h : ∀ p ∈ pieces, p.Inline) :
    ∀ p ∈ matchRuns done pieces, p.Inline := by
  fun_induction matchRuns done pieces with
  | case1 done => exact inline_unmatched fun p hp => hdone p (List.mem_reverse.mp hp)
  | case2 done d rest ih =>
    refine ih ?_ (List.forall_mem_cons.mp h).2
    split
    · exact inline_closeRun _ _ hdone
    · exact List.forall_mem_cons.mpr ⟨.run d, hdone⟩
  | case3 done piece rest _ ih =>
    obtain ⟨hpiece, hrest⟩ := List.forall_mem_cons.mp h
    exact ih (List.forall_mem_cons.mpr ⟨hpiece, hdone⟩) hrest

theorem inline_nodesOf (inLink : Bool) (h : ∀ p ∈ pieces, p.Inline) :
    ∀ n ∈ nodesOf inLink pieces, n.Inline := by
  have hsettled := inline_settleMargins (inline_matchRuns (List.forall_mem_nil _) h)
  unfold nodesOf
  refine inline_nodesFrom ?_
  split
  · exact hsettled
  · exact inline_withMail (inline_linkMail hsettled)

end Attention

section Scan

/-- All nodes of what has been read of a text are inline content. -/
structure TextScan.Inline (s : TextScan) : Prop where
  pieces : ∀ p ∈ s.pieces, p.Inline
  brackets : ∀ b ∈ s.brackets, ∀ p ∈ b.before, p.Inline

variable {s : TextScan} (ctx : TextContext)

theorem inline_nodePiece {kind : NodeKind} (hkind : kind.isInline = true) (cells : List Cell)
    {children : List Node} (h : ∀ n ∈ children, n.Inline) : (nodePiece kind cells children).Inline :=
  .node (.mk hkind h)

theorem inline_loosened {pieces : List Piece} {b : Bracket} (hpieces : ∀ p ∈ pieces, p.Inline)
    (hbefore : ∀ p ∈ b.before, p.Inline) :
    ∀ p ∈ pieces ++ (b.cells.map Piece.char).reverse ++ b.before, p.Inline := by
  rw [List.forall_mem_append, List.forall_mem_append]
  refine ⟨⟨hpieces, ?_⟩, hbefore⟩
  intro p hp
  exact inline_chars b.cells p (List.mem_reverse.mp hp)

theorem inline_loosenAll {pieces : List Piece} {brackets : List Bracket}
    (hpieces : ∀ p ∈ pieces, p.Inline) (hbrackets : ∀ b ∈ brackets, ∀ p ∈ b.before, p.Inline) :
    ∀ p ∈ loosenAll pieces brackets, p.Inline := by
  induction brackets generalizing pieces with
  | nil => exact hpieces
  | cons b rest ih =>
    obtain ⟨hb, hrest⟩ := List.forall_mem_cons.mp hbrackets
    exact ih (inline_loosened hpieces hb) hrest

namespace TextScan.Inline

theorem empty : TextScan.empty.Inline :=
  ⟨List.forall_mem_nil _, List.forall_mem_nil _⟩

theorem add (h : s.Inline) {pieces : List Piece} (hpieces : ∀ p ∈ pieces, p.Inline)
    (last : Option Cell) : (s.add pieces last).Inline := by
  refine ⟨?_, h.brackets⟩
  rw [TextScan.add, List.forall_mem_append]
  exact ⟨fun p hp => hpieces p (List.mem_reverse.mp hp), h.pieces⟩

theorem addPiece (h : s.Inline) {piece : Piece} (hpiece : piece.Inline) (last : Option Cell) :
    (s.add [piece] last).Inline :=
  h.add (List.forall_mem_singleton.mpr hpiece) last

theorem loosen (h : s.Inline) {b : Bracket} {rest : List Bracket} (hb : s.brackets = b :: rest) :
    (s.loosen b rest).Inline := by
  obtain ⟨hbefore, hrest⟩ := List.forall_mem_cons.mp (hb ▸ h.brackets)
  exact ⟨inline_loosened h.pieces hbefore, hrest⟩

/-- Neither what counts as read nor the last character matters. -/
theorem congr (h : s.Inline) {s' : TextScan} (hpieces : s'.pieces = s.pieces)
    (hbrackets : s'.brackets = s.brackets) : s'.Inline := by
  refine ⟨?_, ?_⟩
  · rw [hpieces]
    exact h.pieces
  · rw [hbrackets]
    exact h.brackets

theorem endLine (h : s.Inline) (eol : Cell) (previous : Option Char) :
    (endLine s eol previous).Inline := by
  refine ⟨?_, h.brackets⟩
  unfold Markdown.endLine
  simp only []
  rw [List.forall_mem_cons]
  refine ⟨?_, fun p hp => h.pieces p (List.mem_of_mem_drop hp)⟩
  split
  · split
    · exact inline_nodePiece rfl _ (List.forall_mem_nil _)
    · exact .eol eol
  · exact .eol eol

theorem startLine (h : s.Inline) (cells : List Cell) : (startLine s cells).1.Inline := by
  unfold Markdown.startLine
  simp only []
  split
  · split
    · exact ⟨h.pieces, h.brackets⟩
    · exact ⟨List.forall_mem_cons.mpr ⟨.margin _, h.pieces⟩, h.brackets⟩
  · exact h

theorem deactivate {brackets : List Bracket} (h : ∀ b ∈ brackets, ∀ p ∈ b.before, p.Inline) :
    ∀ b ∈ Markdown.deactivate brackets, ∀ p ∈ b.before, p.Inline := by
  intro b hb
  obtain ⟨c, hc, rfl⟩ := List.mem_map.mp hb
  split
  · exact h c hc
  · exact h c hc

theorem readLabelEnd (h : s.Inline) (close : Cell) (rest : List Cell) :
    (readLabelEnd ctx s close rest).1.Inline := by
  unfold Markdown.readLabelEnd
  split
  · exact h.addPiece (.char close) _
  · next b outer hb =>
    extract_lets fail label id finish caret id' count
    obtain ⟨hbefore, houter⟩ := List.forall_mem_cons.mp (hb ▸ h.brackets)
    have hfail : fail.1.Inline := (h.loosen hb).addPiece (.char close) _
    have hfinish {make : List Cell → Piece} {outer : List Bracket} (rest : List Cell)
        (hmake : ∀ cells, (make cells).Inline) (houter : ∀ b ∈ outer, ∀ p ∈ b.before, p.Inline) :
        (finish make outer rest).1.Inline :=
      addPiece (s := { s with pieces := b.before, brackets := outer }) ⟨hbefore, houter⟩ (hmake _) _
    have hreference (kind : NodeKind) (hkind : kind.isInline = true) (cells : List Cell) :
        (nodePiece kind cells []).Inline :=
      inline_nodePiece hkind cells (List.forall_mem_nil _)
    split
    · exact hfail
    · split
      · exact hfinish rest (hreference _ rfl) (deactivate houter)
      · have hcount {result : TextScan × List Cell} (hresult : result.1.Inline) : (count result).1.Inline :=
          hresult.congr rfl rfl
        have hinside : ∀ p ∈ caret ++ s.pieces.reverse, p.Inline := by
          rw [List.forall_mem_append]
          exact ⟨inline_chars _, fun p hp => h.pieces p (List.mem_reverse.mp hp)⟩
        have hlink {kind : NodeKind} (hkind : kind.isInline = true) (cells : List Cell) :
            (nodePiece kind cells (nodesOf true (caret ++ s.pieces.reverse))).Inline :=
          inline_nodePiece hkind cells (inline_nodesOf true hinside)
        split
        · exact hcount hfail
        · next found _ =>
          -- the kind tells whether a destination or a label was found, which does not matter here
          cases found <;> simp only []
          all_goals split
          · exact hcount (hfinish _ (hreference _ rfl) houter)
          · exact hcount (hfinish _ (hlink rfl) (deactivate houter))
          · exact hcount (hfinish _ (hreference _ rfl) houter)
          · exact hcount (hfinish _ (hlink rfl) (deactivate houter))

theorem readPiece (h : s.Inline) (c : Cell) (rest : List Cell) :
    (readPiece ctx s c rest).1.Inline := by
  unfold Markdown.readPiece
  extract_lets cells plain taken bracket address next unused run before after used word protocol www
  have hplain : plain.1.Inline := h.addPiece (.char c) _
  have htaken (n : Nat) {piece : Piece} (hpiece : piece.Inline) : (taken n piece).1.Inline :=
    h.addPiece hpiece _
  have hbracket (kind : BracketKind) (n : Nat) : (bracket kind n).1.Inline :=
    ⟨List.forall_mem_nil _, List.forall_mem_cons.mpr ⟨h.pieces, h.brackets⟩⟩
  have haddress (n : Nat) : (address n).1.Inline :=
    h.addPiece (.node (inline_addressNode _ _)) _
  have hunused {result : TextScan × List Cell} (hresult : result.1.Inline) : (unused result).1.Inline :=
    hresult.congr rfl rfl
  have hite {c : Prop} [Decidable c] {a b : TextScan × List Cell} (ha : a.1.Inline) (hb : b.1.Inline) :
      (if c then a else b).1.Inline := by
    split
    · exact ha
    · exact hb
  refine hite ((h.endLine _ _).startLine _) ?_
  refine hite (hite (hbracket .image 2) hplain) ?_
  refine hite ?reference (hite (htaken _ (.run _)) ?_)
  case reference =>
    split
    · exact hunused (htaken _ (.literal _ _))
    · exact hunused hplain
  refine hite ?angle ?_
  case angle =>
    split
    · exact hunused (htaken _ (.node (inline_addressNode _ _)))
    · -- what begins no address begins a tag or stands for itself
      cases tagLength? used (chars cells) with
      | some n => exact (htaken n (inline_nodePiece rfl _ (List.forall_mem_nil _))).congr rfl rfl
      | none => exact hplain.congr rfl rfl
  refine hite ?protocol ?_
  case protocol =>
    have hresult : protocol.1.Inline := by
      unfold protocol
      split
      · exact haddress _
      · exact hplain
    exact hite (hunused hresult) hresult
  refine hite ?www ?_
  case www =>
    have hresult : www.1.Inline := by
      unfold www
      split
      · exact haddress _
      · exact hplain
    exact hite (hunused hresult) hresult
  refine hite (hite (hbracket .footnote 2) (hbracket .link 1)) ?_
  refine hite (h.readLabelEnd ctx c rest) ?_
  refine hite ?escape (hite ?code hplain)
  case escape =>
    split
    · next d after =>
      refine hite ?_ (hite ?_ hplain)
      · have hbreak : (nodePiece .lineBreak [c, d] []).Inline :=
          inline_nodePiece rfl _ (List.forall_mem_nil _)
        refine startLine ?_ _
        exact ⟨List.forall_mem_cons.mpr ⟨hbreak, h.pieces⟩, h.brackets⟩
      · exact (htaken 2 (.literal _ _)).congr rfl rfl
    · exact hplain
  case code =>
    split
    · next piece n hread =>
      have hpiece : piece.Inline := by
        obtain ⟨_, -, heq⟩ := Option.map_eq_some_iff.mp hread
        cases heq
        exact inline_nodePiece rfl _ (List.forall_mem_nil _)
      exact hunused (htaken n hpiece)
    · exact hunused hplain

theorem readPieces (h : s.Inline) (fuel : Nat) (cells : List Cell) :
    (readPieces ctx fuel s cells).Inline := by
  fun_induction Markdown.readPieces ctx fuel s cells with
  | case1 => exact h
  | case2 => exact h
  | case3 s fuel c rest s' rest' heq ih =>
    refine ih ?_
    have hread := h.readPiece ctx c rest
    rwa [heq] at hread

end TextScan.Inline

theorem inline_readNodes (h : s.Inline) (cells : List Cell) :
    ∀ n ∈ readNodes ctx s cells, n.Inline := by
  have hread := h.readPieces ctx cells.length cells
  unfold readNodes
  simp only []
  refine inline_nodesOf false ?_
  intro p hp
  refine inline_loosenAll ?_ hread.brackets p (List.mem_reverse.mp hp)
  intro q hq
  exact hread.pieces q ((List.dropWhile_suffix _).subset hq)

theorem inline_readText (cells : List Cell) : ∀ n ∈ readText ctx cells, n.Inline :=
  inline_readNodes ctx (TextScan.Inline.empty.startLine cells) _

theorem inline_dropTaskSpace (start : Point) {nodes : List Node} (h : ∀ n ∈ nodes, n.Inline) :
    ∀ n ∈ (dropTaskSpace start nodes).2, n.Inline := by
  unfold dropTaskSpace
  split
  · next value p children rest =>
    obtain ⟨htext, hrest⟩ := List.forall_mem_cons.mp h
    cases htext with
    | mk _ hchildren =>
      have hkept (place : Point × List Char) (stop : Point) :
          ∀ n ∈ (if place.2.isEmpty then rest
            else ⟨.text (String.ofList place.2), some ⟨place.1, stop⟩, children⟩ :: rest), n.Inline := by
        split
        · exact hrest
        · exact List.forall_mem_cons.mpr ⟨.mk rfl hchildren, hrest⟩
      exact hkept _ _
  · exact h

theorem inline_readTaskParagraph (leads : Bool) (position : Position) (cells : List Cell) :
    ∀ n ∈ (readTaskParagraph ctx leads position cells).2, n.Inline := by
  unfold readTaskParagraph
  split
  · have hscan : ({ TextScan.empty with previous := some ']' } : TextScan).Inline :=
      TextScan.Inline.empty.congr rfl rfl
    have hnodes (cells : List Cell) := inline_readNodes ctx hscan cells
    simp only []
    split
    · exact inline_dropTaskSpace _ (hnodes _)
    · exact hnodes _
  · exact inline_readText ctx cells

end Scan

end DocLint.Markdown
