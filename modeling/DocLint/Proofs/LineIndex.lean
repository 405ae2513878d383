import DocLint.LineIndex
import DocLint.Proofs.Token.Walk
import Mathlib.Data.List.Induction

/-!
# The record of a line

Entering a block changes the records of the lines that it covers, whatever its first and last line are. So the
blocks can be followed line by line: the last one that covers a line is the one that its record keeps.
-/

namespace DocLint

set_option autoImplicit false

/-- The last block that covers a line, in the order of a walk. -/
def lastBlock (tokens : List Token) (n : Nat) : Option Token :=
  ((preorder tokens).filter fun t => t.type.isBlock && t.coversLine n).getLast?

/-- The record of a line of which only the text and the block are known. -/
def LineRecord.ofBlock (n : Nat) (text : String) (block : Option Token) : LineRecord :=
  ⟨n, text, (block.map fun t => LineKind.ofType t.type).getD .text, block⟩

/-- The record of line `n` after a block has been entered. -/
def LineRecord.after (n : Nat) (r : LineRecord) (block : Token) : LineRecord :=
  if block.coversLine n then r.setBlock block else r

namespace LineIndex

section Lines
variable {records : List LineRecord} {i n : Nat}

/-- A list in which a function is applied from place `first` up to place `last`. -/
theorem getElem?_map_between {α : Type} (l : List α) (g : α → α) (first : Nat) {last : Nat}
    (hlast : last ≤ l.length) (i : Nat) :
    ((l.take last).take first ++ ((l.take last).drop first).map g ++ l.drop last)[i]? =
      if first ≤ i ∧ i < last then (l[i]?).map g else l[i]? := by
  have hbefore : ((l.take last).take first).length = min first last := by
    rw [List.length_take, List.length_take]
    omega
  have hbetween : (((l.take last).drop first).map g).length = last - first := by
    rw [List.length_map, List.length_drop, List.length_take]
    omega
  rcases Nat.lt_or_ge i (min first last) with hi | hi
  · rw [List.append_assoc, List.getElem?_append_left (by omega), List.getElem?_take_of_lt (by omega),
      List.getElem?_take_of_lt (by omega), if_neg (by omega)]
  · rcases Nat.lt_or_ge i last with hin | hout
    · rw [List.append_assoc, List.getElem?_append_right (by omega), List.getElem?_append_left (by omega),
        List.getElem?_map, List.getElem?_drop, List.getElem?_take_of_lt (by omega), if_pos (by omega)]
      congr 2
      omega
    · rw [List.getElem?_append_right (by rw [List.length_append]; omega), List.getElem?_drop,
        if_neg (by omega)]
      congr 1
      rw [List.length_append]
      omega

theorem getElem?_enterBlock (records : List LineRecord) (block : Token) (i : Nat) :
    (enterBlock records block)[i]? = (records[i]?).map fun r => r.after (i + 1) block := by
  rw [enterBlock, getElem?_map_between records _ _ (Nat.min_le_right _ _) i]
  cases hr : records[i]? with
  | none => simp
  | some r =>
    have hi : i < records.length := (List.getElem?_eq_some_iff.mp hr).1
    have hcovers : block.coversLine (i + 1) = true ↔
        max block.line 1 - 1 ≤ i ∧ i < min block.endLine records.length := by
      simp only [Token.coversLine, Bool.and_eq_true, decide_eq_true_eq]
      omega
    rw [Option.map_some, Option.map_some, LineRecord.after]
    by_cases h : block.coversLine (i + 1) = true
    · rw [if_pos (hcovers.mp h), if_pos h]
    · rw [if_neg (mt hcovers.mpr h), if_neg h]

theorem getElem?_foldl_enterBlock (blocks : List Token) (records : List LineRecord) (i : Nat) :
    (blocks.foldl enterBlock records)[i]? =
      (records[i]?).map fun r => blocks.foldl (LineRecord.after (i + 1)) r := by
  induction blocks generalizing records with
  | nil => simp
  | cons b rest ih => simp [ih, getElem?_enterBlock, Function.comp_def]

theorem foldl_after (blocks : List Token) (n : Nat) (text : String) :
    blocks.foldl (LineRecord.after n) (.ofBlock n text none) =
      .ofBlock n text (blocks.filter (·.coversLine n)).getLast? := by
  induction blocks using List.reverseRecOn with
  | nil => rfl
  | append_singleton init b ih =>
    rw [List.foldl_append, ih, List.filter_append]
    cases hb : b.coversLine n with
    | true => simp [hb, LineRecord.after, LineRecord.ofBlock, LineRecord.setBlock]
    | false => simp [hb, LineRecord.after]

theorem records_build (texts : List String) (tokens : List Token) :
    (build texts tokens).records =
      texts.mapIdx fun i text => .ofBlock (i + 1) text (lastBlock tokens (i + 1)) := by
  apply List.ext_getElem?
  intro i
  rw [build, getElem?_foldl_enterBlock, TokenCursor.toList_ofTokens, plainRecords, List.getElem?_mapIdx,
    List.getElem?_mapIdx, Option.map_map]
  congr 1
  funext text
  rw [Function.comp_apply, lastBlock]
  refine (foldl_after _ (i + 1) text).trans ?_
  simp only [List.filter_filter, Bool.and_comm]

theorem get?_succ (index : LineIndex) (i : Nat) : index.get? (i + 1) = index.records[i]? := by
  simp [get?]

theorem token_of_get? {texts : List String} {tokens : List Token} {r : LineRecord}
    (h : (build texts tokens).get? n = some r) : r.token = lastBlock tokens n := by
  cases n with
  | zero => cases h
  | succ i =>
    rw [get?_succ, records_build, List.getElem?_mapIdx, Option.map_eq_some_iff] at h
    obtain ⟨text, -, rfl⟩ := h
    rfl

end Lines

end LineIndex

section LastBlock
variable {tokens : List Token} {s t : Token} {n : Nat}

theorem lastBlock_eq_some_iff : lastBlock tokens n = some t ↔
    ∃ a, tokenAt? tokens a = some t ∧ (t.type.isBlock = true ∧ t.coversLine n = true) ∧
      ∀ b u, tokenAt? tokens b = some u → u.type.isBlock = true ∧ u.coversLine n = true → ¬ a < b := by
  simp only [lastBlock, getLast?_filter_preorder, Bool.and_eq_true]

theorem not_coversLine_of_inner (h : lastBlock tokens n = some t) {d : Token} (hd : d ∈ preorder t.children)
    (hblock : d.type.isBlock = true) : d.coversLine n = false := by
  obtain ⟨a, hat, -, hmax⟩ := lastBlock_eq_some_iff.mp h
  obtain ⟨b, hb⟩ := mem_preorder_iff.mp hd
  rw [← Bool.not_eq_true]
  intro hcovers
  exact hmax (a ++ b) d (tokenAt?_append hat hb) ⟨hblock, hcovers⟩ (lt_append a (ne_nil_of_tokenAt? hb))

end LastBlock

section Kinds

/-- Whether a token is a block of code. -/
def Token.IsCode (t : Token) : Prop :=
  t.type = .fence ∨ t.type = .codeBlock

def Token.IsFrontMatter (t : Token) : Prop :=
  t.type = .frontMatter

theorem ofType_eq_code_iff (t : Token) : LineKind.ofType t.type = .code ↔ t.IsCode := by
  unfold LineKind.ofType Token.IsCode
  cases t.type <;> decide

theorem ofType_eq_frontMatter_iff (t : Token) : LineKind.ofType t.type = .frontMatter ↔ t.IsFrontMatter := by
  unfold LineKind.ofType Token.IsFrontMatter
  cases t.type <;> decide

theorem isBlock_of_isCode {t : Token} (h : t.IsCode ∨ t.IsFrontMatter) : t.type.isBlock = true := by
  rcases h with (h | h) | h <;> rw [h] <;> rfl

/-- The kind of a line is read off its block. -/
theorem kind_ofBlock (n : Nat) (text : String) (block : Option Token) :
    ((LineRecord.ofBlock n text block).kind = .code ↔ ∃ t, block = some t ∧ t.IsCode) ∧
      ((LineRecord.ofBlock n text block).kind = .frontMatter ↔ ∃ t, block = some t ∧ t.IsFrontMatter) := by
  cases block with
  | none => simp [LineRecord.ofBlock]
  | some t => simp [LineRecord.ofBlock, ofType_eq_code_iff, ofType_eq_frontMatter_iff]

/-- No block after code or front matter covers one of its lines, as far as the document goes. -/
def Separate (tokens : List Token) (count : Nat) : Prop :=
  (preorder tokens).Pairwise fun s t => s.IsCode ∨ s.IsFrontMatter → t.type.isBlock = true →
    ∀ n, 1 ≤ n → n ≤ count → ¬ (s.coversLine n = true ∧ t.coversLine n = true)

theorem lastBlock_of_separate {tokens : List Token} {s : Token} {n count : Nat} (h : Separate tokens count)
    (hpos : 1 ≤ n) (hle : n ≤ count) (hs : s ∈ preorder tokens) (hkind : s.IsCode ∨ s.IsFrontMatter)
    (hcovers : s.coversLine n = true) : lastBlock tokens n = some s := by
  have hmem : s ∈ (preorder tokens).filter fun t => t.type.isBlock && t.coversLine n := by
    rw [List.mem_filter, Bool.and_eq_true]
    exact ⟨hs, isBlock_of_isCode hkind, hcovers⟩
  obtain ⟨t, ht⟩ := Option.ne_none_iff_exists'.mp (mt List.getLast?_eq_none_iff.mp (List.ne_nil_of_mem hmem))
  obtain ⟨init, hinit⟩ := List.getLast?_eq_some_iff.mp ht
  rw [lastBlock, ht]
  rw [hinit, List.mem_append, List.mem_singleton] at hmem
  rcases hmem with hmem | rfl
  · have hpairs := h.filter fun t => t.type.isBlock && t.coversLine n
    rw [hinit] at hpairs
    have hlast : t.type.isBlock = true ∧ t.coversLine n = true := by
      have hin : t ∈ (preorder tokens).filter fun t => t.type.isBlock && t.coversLine n := by simp [hinit]
      simpa using (List.mem_filter.mp hin).2
    have hnot := (List.pairwise_append.mp hpairs).2.2 s hmem t List.mem_cons_self hkind hlast.1 n hpos hle
    exact absurd ⟨hcovers, hlast.2⟩ hnot
  · rfl

theorem exists_lastBlock_iff {tokens : List Token} {n count : Nat} (h : Separate tokens count) (hpos : 1 ≤ n)
    (hle : n ≤ count) {P : Token → Prop} (hP : ∀ t, P t → t.IsCode ∨ t.IsFrontMatter) :
    (∃ t, lastBlock tokens n = some t ∧ P t) ↔ ∃ t ∈ preorder tokens, P t ∧ t.coversLine n = true := by
  constructor
  · rintro ⟨t, ht, hkind⟩
    obtain ⟨a, hat, ⟨-, hcovers⟩, -⟩ := lastBlock_eq_some_iff.mp ht
    exact ⟨t, mem_preorder_iff.mpr ⟨a, hat⟩, hkind, hcovers⟩
  · rintro ⟨t, ht, hkind, hcovers⟩
    exact ⟨t, lastBlock_of_separate h hpos hle ht (hP t hkind) hcovers, hkind⟩

end Kinds

/-- What the record of line `n` says, whose text is `text`. -/
structure LineRecord.Shows (tokens : List Token) (n : Nat) (text : String) (r : LineRecord) : Prop where
  number : r.number = n
  text : r.text = text
  block : r.token = lastBlock tokens n
  code : r.kind = .code ↔ ∃ t, r.token = some t ∧ t.IsCode
  frontMatter : r.kind = .frontMatter ↔ ∃ t, r.token = some t ∧ t.IsFrontMatter
  innermost : ∀ t, r.token = some t → ∀ d ∈ preorder t.children, d.type.isBlock = true → d.coversLine n = false

theorem shows_ofBlock (tokens : List Token) (n : Nat) (text : String) :
    (LineRecord.ofBlock n text (lastBlock tokens n)).Shows tokens n text := by
  obtain ⟨hcode, hfront⟩ := kind_ofBlock n text (lastBlock tokens n)
  exact ⟨rfl, rfl, rfl, hcode, hfront, fun t ht d hd hblock => not_coversLine_of_inner ht hd hblock⟩

namespace LineIndex

/-- There is one record for every line, in order. Its block is the last one in the order of a walk that covers
the line, and its kind is that of the block. Where no block after code or front matter covers one of its lines,
the lines of code are those that code covers, and likewise for front matter. -/
theorem records_of_lines (texts : List String) (tokens : List Token) :
    (build texts tokens).size = texts.length ∧
      (∀ i text, texts[i]? = some text → ∃ r, (build texts tokens).records[i]? = some r ∧
        (build texts tokens).get? (i + 1) = some r ∧ r.Shows tokens (i + 1) text) ∧
      (Separate tokens texts.length → ∀ r ∈ (build texts tokens).records,
        (r.kind = .code ↔ ∃ t ∈ preorder tokens, t.IsCode ∧ t.coversLine r.number = true) ∧
        (r.kind = .frontMatter ↔ ∃ t ∈ preorder tokens, t.IsFrontMatter ∧ t.coversLine r.number = true)) := by
  refine ⟨by rw [size, records_build, List.length_mapIdx], ?each, ?separate⟩
  case each =>
    intro i text htext
    have hrecord : (build texts tokens).records[i]? =
        some (.ofBlock (i + 1) text (lastBlock tokens (i + 1))) := by
      rw [records_build, List.getElem?_mapIdx, htext, Option.map_some]
    exact ⟨_, hrecord, (get?_succ _ i).trans hrecord, shows_ofBlock tokens (i + 1) text⟩
  case separate =>
    intro hseparate r hr
    rw [records_build, List.mem_mapIdx] at hr
    obtain ⟨i, hi, rfl⟩ := hr
    obtain ⟨hcode, hfront⟩ := kind_ofBlock (i + 1) texts[i] (lastBlock tokens (i + 1))
    have hpos : 1 ≤ i + 1 := by omega
    exact ⟨hcode.trans (exists_lastBlock_iff hseparate hpos hi fun _ => .inl),
      hfront.trans (exists_lastBlock_iff hseparate hpos hi fun _ => .inr)⟩

/-- A fence on three lines and a paragraph after it. -/
theorem records_of_fence :
    let tokens : List Token := [⟨.fence, 1, 3, ⟨0, 9⟩, "b", "", []⟩, ⟨.paragraph, 4, 4, ⟨10, 11⟩, "a", "", []⟩]
    Separate tokens 4 ∧ ∀ r ∈ (build ["~~~", "b", "~~~", "a"] tokens).records,
      (r.kind = .code ↔ ∃ t ∈ preorder tokens, t.IsCode ∧ t.coversLine r.number = true) ∧
        (r.kind = .frontMatter ↔ ∃ t ∈ preorder tokens, t.IsFrontMatter ∧ t.coversLine r.number = true) := by
  intro tokens
  have hseparate : Separate tokens 4 := by
    simp only [tokens, Separate, preorder_cons, preorder_nil, List.nil_append, List.pairwise_cons]
    refine ⟨?_, nofun, .nil⟩
    intro t ht _ _ n _ _
    rw [List.mem_singleton.mp ht]
    simp only [Token.coversLine, Bool.and_eq_true, decide_eq_true_eq]
    omega
  exact ⟨hseparate, (records_of_lines ["~~~", "b", "~~~", "a"] tokens).2.2 hseparate⟩

end LineIndex

end DocLint
