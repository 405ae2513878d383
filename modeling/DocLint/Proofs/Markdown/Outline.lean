import DocLint.Proofs.Markdown.Runs

/-!
# Code in an outline

Every line that is added to an outline keeps what is known of its code: that of finished blocks agrees with
the source in whether it opens with a fence, and so will that of the open leaf, wherever it ends.
-/

namespace DocLint.Markdown

set_option autoImplicit false

variable {text : String} {done : List Char} {l : Line}

/-- A leaf that is code opens with a fence as its style and its value tell. -/
def LeafIn (text : String) (leaf : Leaf) (position : Position) : Prop :=
  ∀ style lang info value, leaf = .code style lang info value → CodeIn text position style value

/-- `LeafIn` for all leaves of some blocks. -/
def BlocksIn (text : String) : List Block → Prop
  | [] => True
  | .leaf leaf position :: rest => LeafIn text leaf position ∧ BlocksIn text rest
  | .container _ _ blocks :: rest => BlocksIn text blocks ∧ BlocksIn text rest

section Blocks
variable {a b : List Block} {block : Block} {position : Position}

@[simp] theorem blocksIn_nil : BlocksIn text [] := by
  simp [BlocksIn]

theorem blocksIn_append : BlocksIn text (a ++ b) ↔ BlocksIn text a ∧ BlocksIn text b := by
  induction a with
  | nil => simp
  | cons block rest ih => cases block <;> simp [BlocksIn, ih, and_assoc]

theorem blocksIn_cons : BlocksIn text (block :: b) ↔ BlocksIn text [block] ∧ BlocksIn text b :=
  blocksIn_append (a := [block])

theorem blocksIn_reverse : BlocksIn text a.reverse ↔ BlocksIn text a := by
  induction a with
  | nil => rfl
  | cons block rest ih => rw [List.reverse_cons, blocksIn_append, ih, blocksIn_cons (b := rest), and_comm]

theorem blocksIn_leaf {leaf : Leaf} :
    BlocksIn text [.leaf leaf position] ↔ LeafIn text leaf position := by
  simp [BlocksIn]

theorem blocksIn_container {kind : ContainerKind} :
    BlocksIn text [.container kind position a] ↔ BlocksIn text a := by
  simp [BlocksIn]

theorem blocksIn_code {style : CodeStyle} {lang info : Option String} {value : String}
    (h : CodeIn text position style value) : BlocksIn text [.leaf (.code style lang info value) position] := by
  rw [blocksIn_leaf]
  intro style' lang' info' value' heq
  cases heq
  exact h

end Blocks

section OpenLeaf

/-- What code has to keep while it is read, so that it is as it should be wherever it ends. -/
def OpenLeafIn (source done : List Char) : OpenLeaf → Prop
  | .indented run => IndentedIn source done run
  | .fenced _ run => FencedIn source done run
  | _ => True

variable {leaf : OpenLeaf}

theorem OpenLeafIn.blocks (h : OpenLeafIn text.toList done leaf) : BlocksIn text leaf.blocks := by
  cases leaf with
  | indented run => exact blocksIn_code (IndentedIn.codeIn h)
  | fenced fence run => exact blocksIn_code (FencedIn.codeIn h _).1
  | none underlined => simp [OpenLeaf.blocks]
  | content run attached => simp [OpenLeaf.blocks, BlocksIn, LeafIn]
  | head before row attached count => cases before <;> simp [OpenLeaf.blocks, BlocksIn, LeafIn]
  | table rows stop => cases rows <;> simp [OpenLeaf.blocks, BlocksIn, LeafIn]
  | html kind run => simp [OpenLeaf.blocks, BlocksIn, LeafIn]

theorem OpenLeafIn.blocksAtEnd (h : OpenLeafIn text.toList done leaf) : BlocksIn text leaf.blocksAtEnd := by
  cases leaf with
  | fenced fence run => exact blocksIn_code (FencedIn.codeIn h _).2
  | html kind run =>
    rw [OpenLeaf.blocksAtEnd]
    split
    · exact h.blocks
    · simp [BlocksIn, LeafIn]
  | none _ => exact h.blocks
  | content _ _ => exact h.blocks
  | head _ _ _ _ => exact h.blocks
  | table _ _ => exact h.blocks
  | indented _ => exact h.blocks

theorem OpenLeafIn.advance {source : List Char} (h : OpenLeafIn source done leaf) (p : LineIn source done l) :
    OpenLeafIn source (done ++ p.whole) leaf := by
  cases leaf with
  | indented run => exact IndentedIn.advance h p
  | fenced fence run => exact FencedIn.advance h p
  | none _ => trivial
  | content _ _ => trivial
  | head _ _ _ _ => trivial
  | table _ _ => trivial
  | html _ _ => trivial

theorem openLeafIn_ofHead {source : List Char} (before : Option (Run × Bool)) (row : Run) (attached : Bool) :
    OpenLeafIn source done (.ofHead before row attached) := by
  cases before <;> trivial

end OpenLeaf

section Reading

structure ReadingIn (text : String) (done : List Char) (reading : Reading) : Prop where
  before : BlocksIn text reading.before
  leaf : OpenLeafIn text.toList done reading.leaf
  blocks : BlocksIn text reading.blocks

variable {leaf : OpenLeaf} {interrupt : Bool} {r : Rest}

theorem readFresh_in (hleaf : BlocksIn text leaf.blocks) (p : LineIn text.toList done r.line)
    (hcells : r.cells <:+ r.line.cells) : ReadingIn text (done ++ p.whole) (readFresh leaf interrupt r) := by
  unfold readFresh
  simp only []
  split
  · exact ⟨hleaf, trivial, blocksIn_nil⟩
  · next hblank =>
    split
    · next hindent =>
      have hcode := indentedIn_begin p hcells (by simp_all) (by simpa using hblank)
      split
      · exact ⟨hleaf, trivial, blocksIn_code hcode.codeIn⟩
      · exact ⟨hleaf, hcode, blocksIn_nil⟩
    · have halone (block : Leaf) (h : LeafIn text block r.position) : ReadingIn text (done ++ p.whole)
          ⟨leaf.blocks, .none false, [.leaf block r.position], false⟩ :=
        ⟨hleaf, trivial, blocksIn_leaf.mpr h⟩
      split
      · next fence hfence => exact ⟨hleaf, fencedIn_begin p hfence hcells, blocksIn_nil⟩
      · split
        · split
          · exact halone _ (by simp [LeafIn])
          · exact ⟨hleaf, trivial, blocksIn_nil⟩
        · split
          · exact halone _ (by simp [LeafIn])
          · split
            · exact ⟨hleaf, trivial, by simp [BlocksIn, LeafIn]⟩
            · split
              · exact halone _ (by simp [LeafIn])
              · -- what is left makes text and tables, which are no code
                repeat' split
                all_goals first
                  | exact ⟨blocksIn_nil, trivial, blocksIn_nil⟩
                  | exact ⟨hleaf, trivial, blocksIn_nil⟩

theorem readLine_in (hleaf : OpenLeafIn text.toList done leaf) (p : LineIn text.toList done r.line)
    (hcells : r.cells <:+ r.line.cells) : ReadingIn text (done ++ p.whole) (readLine leaf interrupt r) := by
  have hafter (interrupt : Bool) : ReadingIn text (done ++ p.whole)
      { readFresh (.none false) interrupt r with
        before := leaf.blocks ++ (readFresh (.none false) interrupt r).before } := by
    have hfresh : ReadingIn text (done ++ p.whole) (readFresh (.none false) interrupt r) :=
      readFresh_in blocksIn_nil p hcells
    exact ⟨blocksIn_append.mpr ⟨hleaf.blocks, hfresh.before⟩, hfresh.leaf, hfresh.blocks⟩
  unfold readLine
  simp only []
  split
  · split
    · exact hafter false
    · split
      · exact ⟨blocksIn_nil, trivial, blocksIn_code (FencedIn.codeIn_stopPoint hleaf p _)⟩
      · exact ⟨blocksIn_nil, FencedIn.extend hleaf p _ _, blocksIn_nil⟩
  · split
    · exact hafter false
    · split
      · exact ⟨blocksIn_nil, trivial, by simp [BlocksIn, LeafIn]⟩
      · exact ⟨blocksIn_nil, trivial, blocksIn_nil⟩
  · split
    · exact hafter false
    · split
      · exact ⟨blocksIn_nil, IndentedIn.extend hleaf p _ _, blocksIn_nil⟩
      · split
        · exact ⟨blocksIn_nil, IndentedIn.skip hleaf p, blocksIn_nil⟩
        · exact hafter false
  · next before row attached count =>
    split
    · refine ⟨?_, trivial, blocksIn_nil⟩
      cases before <;> simp [OpenLeaf.blocks, BlocksIn, LeafIn]
    · have hhead : OpenLeafIn text.toList done (.ofHead before row attached) :=
        openLeafIn_ofHead before row attached
      exact readFresh_in hhead.blocks p hcells
  · exact readFresh_in hleaf.blocks p hcells

end Reading

/-- `BlocksIn` for the finished blocks of an outline, in open containers and outside. -/
structure Settled (text : String) (o : Outline) : Prop where
  frames : ∀ f ∈ o.frames, BlocksIn text f.blocks
  blocks : BlocksIn text o.blocks

namespace Settled
variable {o : Outline}

theorem add (h : Settled text o) {blocks : List Block} (hblocks : BlocksIn text blocks) :
    Settled text (o.add blocks) := by
  have hreverse : BlocksIn text blocks.reverse := blocksIn_reverse.mpr hblocks
  unfold Outline.add
  split
  · exact ⟨h.frames, blocksIn_append.mpr ⟨hreverse, h.blocks⟩⟩
  · next f rest hframes =>
    refine ⟨?_, h.blocks⟩
    intro g hg
    rcases List.mem_cons.mp hg with rfl | hg
    · exact blocksIn_append.mpr ⟨hreverse, h.frames f (hframes ▸ List.mem_cons_self)⟩
    · exact h.frames g (hframes ▸ List.mem_cons_of_mem f hg)

theorem closeFrames (stop : Point) (n : Nat) {frames : List Frame} {blocks : List Block}
    (hframes : ∀ f ∈ frames, BlocksIn text f.blocks) (hblocks : BlocksIn text blocks) :
    (∀ f ∈ (Outline.closeFrames stop n frames blocks).1, BlocksIn text f.blocks) ∧
      BlocksIn text (Outline.closeFrames stop n frames blocks).2 := by
  fun_induction Outline.closeFrames stop n frames blocks with
  | case1 => exact ⟨hframes, hblocks⟩
  | case2 => exact ⟨hframes, hblocks⟩
  | case3 n f blocks closed =>
    have hclosed : BlocksIn text [closed] :=
      blocksIn_container.mpr (blocksIn_reverse.mpr (hframes f List.mem_cons_self))
    exact ⟨fun _ hf => absurd hf List.not_mem_nil, blocksIn_cons.mpr ⟨hclosed, hblocks⟩⟩
  | case4 n f blocks closed g more ih =>
    have hclosed : BlocksIn text [closed] :=
      blocksIn_container.mpr (blocksIn_reverse.mpr (hframes f List.mem_cons_self))
    refine ih ?_ hblocks
    intro e he
    rcases List.mem_cons.mp he with rfl | he
    · exact blocksIn_cons.mpr ⟨hclosed, hframes g (by simp)⟩
    · exact hframes e (by simp [he])

theorem close (h : Settled text o) (n : Nat) (stop : Point) : Settled text (o.close n stop) := by
  obtain ⟨hframes, hblocks⟩ := closeFrames stop n h.frames h.blocks
  exact ⟨hframes, hblocks⟩

theorem finish (h : Settled text o) (hleaf : OpenLeafIn text.toList done o.leaf) (n : Nat) :
    Settled text (o.finish n) := by
  unfold Outline.finish
  simp only []
  refine close (add (o := { o with leaf := .none false }) ⟨h.frames, h.blocks⟩ ?_) n _
  split
  · exact hleaf.blocks
  · exact hleaf.blocksAtEnd

theorem endLeaf (h : Settled text o) (hleaf : OpenLeafIn text.toList done o.leaf) :
    Settled text o.endLeaf :=
  add (o := { o with leaf := .none false }) ⟨h.frames, h.blocks⟩ hleaf.blocks

theorem push (h : Settled text o) (kind : ContainerKind) (start : Point) :
    Settled text (o.push kind start) := by
  refine ⟨?_, h.blocks⟩
  intro f hf
  rcases List.mem_cons.mp hf with rfl | hf
  · exact blocksIn_nil
  · exact h.frames f hf

end Settled

section Lines
variable {o : Outline} {r : Rest}

/-- The invariant of an outline after the lines of `done`. -/
structure OutlineIn (text : String) (done : List Char) (o : Outline) : Prop where
  settled : Settled text o
  leaf : OpenLeafIn text.toList done o.leaf

theorem outlineIn_empty (nests : Bool) : OutlineIn text done (.empty nests) :=
  ⟨⟨fun _ hf => absurd hf List.not_mem_nil, blocksIn_nil⟩, trivial⟩

@[simp] theorem Outline.add_leaf (blocks : List Block) : (o.add blocks).leaf = o.leaf := by
  unfold Outline.add
  split <;> rfl

@[simp] theorem Outline.endLeaf_leaf : o.endLeaf.leaf = .none false :=
  Outline.add_leaf _

@[simp] theorem Outline.finish_leaf (n : Nat) : (o.finish n).leaf = .none false :=
  Outline.add_leaf _

theorem OutlineIn.endLeaf (h : OutlineIn text done o) : OutlineIn text done o.endLeaf := by
  refine ⟨h.settled.endLeaf h.leaf, ?_⟩
  rw [Outline.endLeaf_leaf]
  trivial

theorem OutlineIn.finish (h : OutlineIn text done o) (n : Nat) : OutlineIn text done (o.finish n) := by
  refine ⟨h.settled.finish h.leaf n, ?_⟩
  rw [Outline.finish_leaf]
  trivial

theorem OutlineIn.push (h : OutlineIn text done o) (kind : ContainerKind) (start : Point) :
    OutlineIn text done (o.push kind start) :=
  ⟨h.settled.push kind start, h.leaf⟩

theorem OutlineIn.openFrames (h : OutlineIn text done o) (hcells : r.cells <:+ r.line.cells) (fuel : Nat) :
    OutlineIn text done (Outline.openFrames fuel o r).1 ∧
      (Outline.openFrames fuel o r).2.line = r.line ∧
      (Outline.openFrames fuel o r).2.cells <:+ r.line.cells := by
  induction fuel generalizing o r with
  | zero => exact ⟨h, rfl, hcells⟩
  | succ fuel ih =>
    rw [Outline.openFrames]
    split
    · exact ⟨h, rfl, hcells⟩
    · split
      · exact ⟨h, rfl, hcells⟩
      · next kind cells hopen =>
        refine ih (OutlineIn.push ?_ kind _) ((openContainer?_suffix hopen).trans hcells)
        split
        · exact h.finish _
        · exact h.endLeaf

theorem continueFrames_in (cells : List Cell) {frames : List Frame}
    (hframes : ∀ f ∈ frames, BlocksIn text f.blocks) :
    (∀ f ∈ (Outline.continueFrames cells frames).1, BlocksIn text f.blocks) ∧
      (∀ f ∈ (Outline.continueFrames cells frames).2.1, BlocksIn text f.blocks) ∧
      (Outline.continueFrames cells frames).2.2 <:+ cells := by
  induction frames generalizing cells with
  | nil => simp [Outline.continueFrames]
  | cons f rest ih =>
    rw [Outline.continueFrames]
    split
    · exact ⟨fun _ hf => absurd hf List.not_mem_nil, hframes, List.suffix_rfl⟩
    · next kind after hcontinue =>
      obtain ⟨hmatched, hunmatched, hsuffix⟩ :=
        ih after fun g hg => hframes g (List.mem_cons_of_mem f hg)
      refine ⟨?_, hunmatched, hsuffix.trans (continueContainer?_suffix hcontinue)⟩
      intro g hg
      rcases List.mem_cons.mp hg with rfl | hg
      · exact hframes f List.mem_cons_self
      · exact hmatched g hg

theorem OutlineIn.addRest (h : OutlineIn text done o) (p : LineIn text.toList done r.line)
    (hcells : r.cells <:+ r.line.cells) : OutlineIn text (done ++ p.whole) (o.addRest r) := by
  unfold Outline.addRest
  split
  · exact ⟨⟨h.settled.frames, h.settled.blocks⟩, h.leaf.advance p⟩
  · extract_lets rest mayAccept ended given reading accepts started closed added
    have hended : OutlineIn text done ended := h.endLeaf
    have hgiven : OutlineIn text done given := by
      unfold given
      split
      · exact ⟨⟨hended.settled.frames, hended.settled.blocks⟩, hended.leaf⟩
      · exact h
    have hreading : ReadingIn text (done ++ p.whole) reading := readLine_in (r := rest) hgiven.leaf p hcells
    have hstarted : Settled text started :=
      Settled.add (o := { given with leaf := .none false, interrupt := reading.interrupt })
        ⟨hgiven.settled.frames, hgiven.settled.blocks⟩ hreading.before
    have hclosed : Settled text closed := by
      unfold closed
      split
      · exact hstarted.close _ _
      · exact hstarted
    have hadded : Settled text added := hclosed.add hreading.blocks
    exact ⟨⟨hadded.frames, hadded.blocks⟩, hreading.leaf⟩

/-- One line keeps the invariant. -/
theorem OutlineIn.addLine (h : OutlineIn text done o) (p : LineIn text.toList done l) :
    OutlineIn text (done ++ p.whole) (o.addLine l) := by
  unfold Outline.addLine
  simp only []
  have hreverse : ∀ f ∈ o.frames.reverse, BlocksIn text f.blocks :=
    fun f hf => h.settled.frames f (List.mem_reverse.mp hf)
  obtain ⟨hmatched, hunmatched, hcells⟩ := continueFrames_in l.cells hreverse
  generalize Outline.continueFrames l.cells o.frames.reverse = found at hmatched hunmatched hcells
  obtain ⟨matched, unmatched, cells⟩ := found
  have hframes : OutlineIn text done { o with frames := unmatched.reverse ++ matched.reverse } := by
    refine ⟨⟨?_, h.settled.blocks⟩, h.leaf⟩
    intro f hf
    rcases List.mem_append.mp hf with hf | hf
    · exact hunmatched f (List.mem_reverse.mp hf)
    · exact hmatched f (List.mem_reverse.mp hf)
  obtain ⟨hopened, hline, hrest⟩ := hframes.openFrames
    (r := ⟨l, cells, unmatched.length, false, false, o.loosePipe⟩) hcells l.cells.length
  generalize Outline.openFrames l.cells.length _ _ = opened at hopened hline hrest
  obtain ⟨o', r⟩ := opened
  simp only [] at hopened hline hrest
  subst hline
  exact hopened.addRest p hrest

/-- So do all lines that follow. -/
theorem OutlineIn.foldl {lines : List Line} (h : OutlineIn text done o)
    (hlines : LinesIn text.toList done lines) : ∃ done', OutlineIn text done' (lines.foldl Outline.addLine o) := by
  induction hlines generalizing o with
  | nil done => exact ⟨done, h⟩
  | cons p _ ih => exact ih (h.addLine p)

theorem blocksIn_toBlocks (h : OutlineIn text done o) : BlocksIn text o.toBlocks :=
  blocksIn_reverse.mpr (h.finish _).settled.blocks

end Lines

end DocLint.Markdown
