import DocLint.Parser
import DocLint.Proofs.Text.LineOrder
import Mathlib.Data.List.DropRight

/-!
# The paragraphs of a plain text

The loop over the lines keeps the paragraph that is open, if there is one: a run of lines that are not blank,
up to the last line that was read, with a blank line or nothing before it. A blank line or the end of the text
makes it maximal. So the paragraphs are the maximal runs, in the order of the text.
-/

namespace DocLint

set_option autoImplicit false

/-- Whether nothing remains of a line when white space is removed from both ends. -/
def PhysicalLine.IsBlank (l : PhysicalLine) : Prop :=
  Text.trim l.text = ""

theorem Text.trimChars_eq_nil_iff {cs : List Char} : trimChars cs = [] ↔ cs.all isWhite = true := by
  have htrim : trimChars cs = (cs.dropWhile isWhite).rdropWhile isWhite := rfl
  rw [htrim, List.rdropWhile_eq_nil_iff, List.all_eq_true]
  constructor
  · intro h
    rw [← List.dropWhile_eq_nil_iff]
    -- what is left after white space begins with something else
    cases hrest : cs.dropWhile isWhite with
    | nil => rfl
    | cons c rest =>
      have hfirst := List.head?_dropWhile_not isWhite cs
      have hwhite := h c (by simp [hrest])
      simp [hrest, hwhite] at hfirst
  · intro h c hc
    exact h c ((List.dropWhile_suffix isWhite).subset hc)

theorem PhysicalLine.isBlank_iff {l : PhysicalLine} : l.IsBlank ↔ l.chars.all Text.isWhite = true := by
  rw [IsBlank, Text.trim, text, String.toList_ofList, ← Text.trimChars_eq_nil_iff]
  exact String.ofList_eq_empty_iff

namespace PlainText

/-- Lines that are not blank, with a blank line or nothing before them. -/
structure RunTo (lines : List PhysicalLine) (i j : Nat) : Prop where
  le : i ≤ j
  solid : ∀ k, i ≤ k → k ≤ j → ∃ l, lines[k]? = some l ∧ ¬ l.IsBlank
  before : ∀ k l, k + 1 = i → lines[k]? = some l → l.IsBlank

/-- A maximal run of lines that are not blank: the lines from place `i` to place `j`. -/
structure IsRun (lines : List PhysicalLine) (i j : Nat) : Prop extends RunTo lines i j where
  after : ∀ l, lines[j + 1]? = some l → l.IsBlank

section Runs
variable {lines : List PhysicalLine} {i j i' j' m n : Nat}

theorem RunTo.not_isBlank (h : RunTo lines i j) {k : Nat} {l : PhysicalLine} (hi : i ≤ k) (hj : k ≤ j)
    (hl : lines[k]? = some l) : ¬ l.IsBlank := by
  obtain ⟨l', hl', hblank⟩ := h.solid k hi hj
  rw [hl] at hl'
  cases hl'
  exact hblank

theorem RunTo.lt_length (h : RunTo lines i j) : j < lines.length := by
  obtain ⟨l, hl, -⟩ := h.solid j h.le (Nat.le_refl j)
  exact (List.getElem?_eq_some_iff.mp hl).1

/-- A run that ends in another one or behind it does not begin inside of that. -/
theorem RunTo.begin_le (h : RunTo lines i j) (h' : RunTo lines i' j') (hle : i ≤ j') : i ≤ i' := by
  rcases Nat.lt_or_ge i' i with hlt | hge
  · obtain ⟨k, rfl⟩ : ∃ k, i = k + 1 := ⟨i - 1, by omega⟩
    obtain ⟨l, hl, hblank⟩ := h'.solid k (by omega) (by omega)
    exact absurd (h.before k l rfl hl) hblank
  · exact hge

/-- Two maximal runs with a line in common are the same. -/
theorem IsRun.unique (h : IsRun lines i j) (h' : IsRun lines i' j') (hij' : i ≤ j') (hi'j : i' ≤ j) :
    i = i' ∧ j = j' := by
  have hstop {a b a' b' : Nat} (h : IsRun lines a b) (h' : IsRun lines a' b') (hle : a' ≤ b) : b' ≤ b := by
    rcases Nat.lt_or_ge b b' with hlt | hge
    · obtain ⟨l, hl, hblank⟩ := h'.solid (b + 1) (by omega) (by omega)
      exact absurd (h.after l hl) hblank
    · exact hge
  have hbegin := h.begin_le h'.toRunTo hij'
  have hbegin' := h'.begin_le h.toRunTo hi'j
  have hend := hstop h h' hi'j
  have hend' := hstop h' h hij'
  omega

/-- The maximal runs that begin at place `m` or behind it, in order. Every line from there on that is not
blank is in one of them. -/
structure RunsFrom (lines : List PhysicalLine) (m : Nat) (runs : List (Nat × Nat)) : Prop where
  mem_iff : ∀ i j, (i, j) ∈ runs ↔ IsRun lines i j ∧ m ≤ i
  ascending : runs.Pairwise fun r s => r.2 + 1 < s.1
  covering : ∀ k l, m ≤ k → lines[k]? = some l → ¬ l.IsBlank → ∃ r ∈ runs, r.1 ≤ k ∧ k ≤ r.2

theorem RunsFrom.nil (h : lines.length ≤ n) : RunsFrom lines n [] := by
  refine ⟨?_, .nil, ?_⟩
  · intro i j
    simp only [List.not_mem_nil, false_iff, not_and]
    intro hrun
    have hlt := hrun.lt_length
    have hle := hrun.le
    omega
  · intro k l hk hl
    have hlt := (List.getElem?_eq_some_iff.mp hl).1
    omega

theorem RunsFrom.skip {runs : List (Nat × Nat)} {line : PhysicalLine} (h : RunsFrom lines (n + 1) runs)
    (hline : lines[n]? = some line) (hblank : line.IsBlank) : RunsFrom lines n runs := by
  refine ⟨?_, h.ascending, ?_⟩
  · intro i j
    rw [h.mem_iff]
    constructor
    · rintro ⟨hrun, hle⟩
      exact ⟨hrun, by omega⟩
    · rintro ⟨hrun, hle⟩
      refine ⟨hrun, ?_⟩
      rcases Nat.eq_or_lt_of_le hle with rfl | hlt
      · exact absurd hblank (hrun.not_isBlank (Nat.le_refl _) hrun.le hline)
      · exact hlt
  · intro k l hk hl hsolid
    rcases Nat.eq_or_lt_of_le hk with rfl | hlt
    · rw [hline] at hl
      cases hl
      exact absurd hblank hsolid
    · exact h.covering k l hlt hl hsolid

theorem RunsFrom.cons {runs : List (Nat × Nat)} (hrun : IsRun lines m j) (h : RunsFrom lines (j + 1) runs) :
    RunsFrom lines m ((m, j) :: runs) := by
  have hle := hrun.le
  refine ⟨?_, List.pairwise_cons.mpr ⟨?_, h.ascending⟩, ?_⟩
  · intro i j'
    rw [List.mem_cons, h.mem_iff, Prod.mk.injEq]
    constructor
    · rintro (⟨rfl, rfl⟩ | ⟨hother, hi⟩)
      · exact ⟨hrun, Nat.le_refl _⟩
      · exact ⟨hother, by omega⟩
    · rintro ⟨hother, hi⟩
      rcases Nat.lt_or_ge j i with hlt | hge
      · exact .inr ⟨hother, hlt⟩
      · have hother_le := hother.le
        obtain ⟨rfl, rfl⟩ := hother.unique hrun hge (by omega)
        exact .inl ⟨rfl, rfl⟩
  · rintro ⟨i, j'⟩ hmem
    obtain ⟨hother, hi⟩ := (h.mem_iff i j').mp hmem
    rcases Nat.eq_or_lt_of_le hi with rfl | hlt
    · obtain ⟨l, hl, hsolid⟩ := hother.solid (j + 1) (Nat.le_refl _) hother.le
      exact absurd (hrun.after l hl) hsolid
    · exact hlt
  · intro k l hk hl hsolid
    rcases Nat.lt_or_ge j k with hlt | hge
    · obtain ⟨r, hr, hcovers⟩ := h.covering k l hlt hl hsolid
      exact ⟨r, List.mem_cons_of_mem _ hr, hcovers⟩
    · exact ⟨(m, j), List.mem_cons_self, hk, hge⟩

end Runs

section Loop
variable {lines : List PhysicalLine} {m n : Nat} {open' : Option OpenParagraph}

/-- What is kept of a run of lines. -/
def paragraphOf (lines : List PhysicalLine) (r : Nat × Nat) : OpenParagraph where
  start := (lines[r.1]?.map PhysicalLine.start).getD 0
  firstLine := r.1 + 1
  stop := (lines[r.2]?.map PhysicalLine.stop).getD 0
  lastLine := r.2 + 1

/-- What the loop keeps after `n` lines, when the runs before place `m` are done with. -/
inductive Collecting (lines : List PhysicalLine) : Nat → Nat → Option OpenParagraph → Prop where
  | between {n : Nat} : (∀ k l, k + 1 = n → lines[k]? = some l → l.IsBlank) → Collecting lines n n none
  | inside {m j : Nat} : RunTo lines m j → Collecting lines (j + 1) m (some (paragraphOf lines (m, j)))

/-- The open paragraph goes on with a line that is not blank, or begins with it. -/
def extended (open' : Option OpenParagraph) (line : PhysicalLine) (number : Nat) : OpenParagraph :=
  match open' with
  | some p => { p with stop := line.stop, lastLine := number }
  | none => ⟨line.start, number, line.stop, number⟩

theorem Collecting.extend {line : PhysicalLine} (h : Collecting lines n m open')
    (hline : lines[n]? = some line) (hsolid : ¬ line.IsBlank) :
    Collecting lines (n + 1) m (some (extended open' line (n + 1))) := by
  cases h with
  | between hbefore =>
    have hrun : RunTo lines m m := by
      refine ⟨Nat.le_refl m, ?_, hbefore⟩
      intro k hle hge
      obtain rfl : k = m := by omega
      exact ⟨line, hline, hsolid⟩
    simpa [paragraphOf, extended, hline] using Collecting.inside hrun
  | @inside _ j hrun =>
    have hle := hrun.le
    have hrun' : RunTo lines m (j + 1) := by
      refine ⟨by omega, ?_, hrun.before⟩
      intro k hmk hkj
      rcases Nat.lt_or_ge j k with hlt | hge
      · obtain rfl : k = j + 1 := by omega
        exact ⟨line, hline, hsolid⟩
      · exact hrun.solid k hmk hge
    simpa [paragraphOf, extended, hline] using Collecting.inside hrun'

/-- Behind a blank line, or at the end, the open paragraph is a maximal run. -/
theorem Collecting.close {runs : List (Nat × Nat)} (h : Collecting lines n m open')
    (hafter : ∀ l, lines[n]? = some l → l.IsBlank) (hruns : RunsFrom lines n runs) :
    ∃ all, RunsFrom lines m all ∧
      open'.toList ++ runs.map (paragraphOf lines) = all.map (paragraphOf lines) := by
  cases h with
  | between _ => exact ⟨runs, hruns, rfl⟩
  | @inside _ j hrun => exact ⟨(m, j) :: runs, .cons ⟨hrun, hafter⟩ hruns, rfl⟩

theorem paragraphsFrom_blank {line : PhysicalLine} (h : line.IsBlank) (rest : List PhysicalLine) :
    paragraphsFrom open' n (line :: rest) = open'.toList ++ paragraphsFrom none (n + 1) rest := by
  have hwhite := PhysicalLine.isBlank_iff.mp h
  cases open' with
  | none => rw [paragraphsFrom, if_pos hwhite]
  | some p => rw [paragraphsFrom, if_pos hwhite]

theorem paragraphsFrom_solid {line : PhysicalLine} (h : ¬ line.IsBlank) (rest : List PhysicalLine) :
    paragraphsFrom open' n (line :: rest) = paragraphsFrom (some (extended open' line n)) (n + 1) rest := by
  have hwhite := mt PhysicalLine.isBlank_iff.mpr h
  cases open' with
  | none =>
    rw [paragraphsFrom, if_neg hwhite]
    rfl
  | some p =>
    rw [paragraphsFrom, if_neg hwhite]
    rfl

/-- From any line on, the loop gives the runs that it has not done with. -/
theorem exists_runs {rest : List PhysicalLine} (h : Collecting lines n m open') (hrest : lines.drop n = rest) :
    ∃ runs, RunsFrom lines m runs ∧
      paragraphsFrom open' (n + 1) rest = runs.map (paragraphOf lines) := by
  induction rest generalizing open' n m with
  | nil =>
    have hlength : lines.length ≤ n := List.drop_eq_nil_iff.mp hrest
    have hafter : ∀ l, lines[n]? = some l → l.IsBlank := by
      intro l hl
      rw [List.getElem?_eq_none hlength] at hl
      cases hl
    obtain ⟨runs, hruns, heq⟩ := h.close hafter (.nil hlength)
    refine ⟨runs, hruns, ?_⟩
    rw [paragraphsFrom, ← heq, List.map_nil, List.append_nil]
  | cons line rest ih =>
    have hline : lines[n]? = some line := by
      rw [← List.head?_drop, hrest, List.head?_cons]
    have hdrop : lines.drop (n + 1) = rest := by
      rw [← List.tail_drop, hrest, List.tail_cons]
    by_cases hblank : line.IsBlank
    · have honly (l : PhysicalLine) (hl : lines[n]? = some l) : l.IsBlank := by
        rw [hline] at hl
        cases hl
        exact hblank
      have hnext : Collecting lines (n + 1) (n + 1) none := by
        refine .between ?_
        intro k l hk hl
        obtain rfl : k = n := by omega
        exact honly l hl
      obtain ⟨later, hlater, heq⟩ := ih hnext hdrop
      rw [paragraphsFrom_blank hblank, heq]
      obtain ⟨all, hall, heq'⟩ := h.close honly (hlater.skip hline hblank)
      exact ⟨all, hall, heq'⟩
    · rw [paragraphsFrom_solid hblank]
      exact ih (h.extend hline hblank) hdrop

/-- The paragraphs of a text are the maximal runs of its lines. -/
theorem exists_runs_tokens (source : String) :
    ∃ runs, RunsFrom (physicalLines source) 0 runs ∧
      tokens source = runs.map fun r => (paragraphOf (physicalLines source) r).token source := by
  have hbegin : Collecting (physicalLines source) 0 0 none :=
    .between fun _ _ h => absurd h (Nat.succ_ne_zero _)
  obtain ⟨runs, hruns, heq⟩ := exists_runs hbegin List.drop_zero
  refine ⟨runs, hruns, ?_⟩
  rw [tokens, heq, List.map_map]
  rfl

end Loop

section Tokens
variable {source : String} {i j k : Nat}

/-- The token of the paragraph from the line at place `i` to the line at place `j`. Its only child is a text
with the same range and content. -/
structure IsParagraph (source : String) (i j : Nat) (t : Token) : Prop where
  type : t.type = .paragraph
  line : t.line = i + 1
  endLine : t.endLine = j + 1
  span : ∃ first last, (physicalLines source)[i]? = some first ∧ (physicalLines source)[j]? = some last ∧
    t.span = ⟨first.start, last.stop⟩
  content : t.span.slice? source = some t.content
  info : t.info = ""
  children : t.children = [⟨.text, t.line, t.endLine, t.span, t.content, "", []⟩]

theorem isParagraph_token (h : IsRun (physicalLines source) i j) :
    IsParagraph source i j ((paragraphOf (physicalLines source) (i, j)).token source) := by
  obtain ⟨first, hfirst, -⟩ := h.solid i (Nat.le_refl i) h.le
  obtain ⟨last, hlast, -⟩ := h.solid j h.le (Nat.le_refl j)
  obtain ⟨cs, hslice, -, -⟩ := slice?_of_lines hfirst hlast h.le
  have hopen : paragraphOf (physicalLines source) (i, j) = ⟨first.start, i + 1, last.stop, j + 1⟩ := by
    simp [paragraphOf, hfirst, hlast]
  have hcontent : (⟨first.start, last.stop⟩ : Span).slice? source = some (String.ofList cs) := hslice
  rw [hopen, OpenParagraph.token, hcontent]
  exact ⟨rfl, rfl, rfl, ⟨first, last, hfirst, hlast, rfl⟩, hslice, rfl, rfl⟩

theorem ne_nil_of_solid {l : PhysicalLine} (h : ¬ l.IsBlank) : l.chars ≠ [] := by
  intro hnil
  apply h
  rw [PhysicalLine.isBlank_iff, hnil]
  rfl

theorem start_lt_stop {l : PhysicalLine} (h : ¬ l.IsBlank) : l.start < l.stop := by
  have hne := mt Text.byteLength_eq_zero_iff.mp (ne_nil_of_solid h)
  rw [PhysicalLine.stop]
  omega

/-- A paragraph begins and ends with what is no terminator. -/
theorem IsParagraph.ends {t : Token} (ht : IsParagraph source i j t) (h : IsRun (physicalLines source) i j) :
    ∃ c d, t.content.toList.head? = some c ∧ t.content.toList.getLast? = some d ∧
      (c ≠ '\r' ∧ c ≠ '\n') ∧ d ≠ '\r' ∧ d ≠ '\n' := by
  obtain ⟨first, last, hfirst, hlast, hspan⟩ := ht.span
  obtain ⟨cs, hslice, hprefix, hsuffix⟩ := slice?_of_lines hfirst hlast h.le
  have hcontent : t.content.toList = cs := by
    have hsame := ht.content
    rw [hspan, Span.slice?, hslice] at hsame
    rw [← Option.some.inj hsame, String.toList_ofList]
  obtain ⟨c, more, hc⟩ :=
    List.exists_cons_of_ne_nil (ne_nil_of_solid (h.not_isBlank (Nat.le_refl i) h.le hfirst))
  have hne : last.chars ≠ [] := ne_nil_of_solid (h.not_isBlank h.le (Nat.le_refl j) hlast)
  obtain ⟨d, hd⟩ := Option.ne_none_iff_exists'.mp (mt List.getLast?_eq_none_iff.mp hne)
  refine ⟨c, d, ?_, ?_, isPlain_of_line hfirst c (by simp [hc]),
    isPlain_of_line hlast d (List.mem_of_getLast? hd)⟩
  · obtain ⟨rest, rfl⟩ := hprefix
    rw [hcontent, hc, List.cons_append, List.head?_cons]
  · obtain ⟨before, rfl⟩ := hsuffix
    rw [hcontent, List.getLast?_append, hd, Option.some_or]

theorem IsParagraph.nonempty {t : Token} (ht : IsParagraph source i j t)
    (h : IsRun (physicalLines source) i j) : t.span.start < t.span.stop := by
  obtain ⟨first, last, hfirst, hlast, hspan⟩ := ht.span
  have hlt := start_lt_stop (h.not_isBlank (Nat.le_refl i) h.le hfirst)
  have hle := (start_le_start hfirst hlast h.le).2
  rw [hspan]
  exact Nat.lt_of_lt_of_le hlt hle

/-- No number in the token of a paragraph is greater than the number of bytes. -/
theorem IsParagraph.le_byteLength {t : Token} (ht : IsParagraph source i j t)
    (h : IsRun (physicalLines source) i j) :
    t.endLine ≤ Text.byteLength source.toList ∧ t.span.stop ≤ Text.byteLength source.toList := by
  obtain ⟨first, last, hfirst, hlast, hspan⟩ := ht.span
  have hindex := index_le_start hlast
  have hlt := start_lt_stop (h.not_isBlank h.le (Nat.le_refl j) hlast)
  have hstop := stop_le_byteLength hlast
  rw [ht.endLine, hspan]
  exact ⟨by omega, hstop⟩

theorem IsParagraph.coversLine_iff {t : Token} (ht : IsParagraph source i j t) :
    t.coversLine (k + 1) = true ↔ i ≤ k ∧ k ≤ j := by
  rw [Token.coversLine, ht.line, ht.endLine, Bool.and_eq_true, decide_eq_true_eq, decide_eq_true_eq]
  omega

/-- Of things that exclude each other, a list has only one. -/
theorem filter_eq_singleton {α : Type} {R : α → α → Prop} {p : α → Bool} {l : List α} {a : α}
    (h : l.Pairwise R) (hR : ∀ x y, R x y → ¬ (p x = true ∧ p y = true)) (ha : a ∈ l) (hp : p a = true) :
    l.filter p = [a] := by
  obtain ⟨before, after, rfl⟩ := List.append_of_mem ha
  obtain ⟨-, hafter, hbefore⟩ := List.pairwise_append.mp h
  have hnone : before.filter p = [] := by
    rw [List.filter_eq_nil_iff]
    exact fun x hx hpx => hR x a (hbefore x hx a List.mem_cons_self) ⟨hpx, hp⟩
  have hnone' : after.filter p = [] := by
    rw [List.filter_eq_nil_iff]
    exact fun x hx hpx => hR a x ((List.pairwise_cons.mp hafter).1 x hx) ⟨hp, hpx⟩
  rw [List.filter_append, List.filter_cons_of_pos hp, hnone, hnone', List.nil_append]

/-- What the paragraphs of a text are. -/
structure Paragraphs (source : String) (tokens : List Token) : Prop where
  run : ∀ t ∈ tokens, ∃ i j, IsRun (physicalLines source) i j ∧ IsParagraph source i j t
  complete : ∀ i j, IsRun (physicalLines source) i j → ∃ t ∈ tokens, IsParagraph source i j t
  ascending : tokens.Pairwise fun t u => t.endLine + 1 < u.line ∧ t.span.stop < u.span.start
  solid : ∀ k l, (physicalLines source)[k]? = some l → ¬ l.IsBlank →
    ∃ t, tokens.filter (·.coversLine (k + 1)) = [t]
  blank : ∀ k l, (physicalLines source)[k]? = some l → l.IsBlank → tokens.filter (·.coversLine (k + 1)) = []
  nonempty : ∀ t ∈ tokens, t.span.start < t.span.stop
  ends : ∀ t ∈ tokens, ∃ c d, t.content.toList.head? = some c ∧ t.content.toList.getLast? = some d ∧
    (c ≠ '\r' ∧ c ≠ '\n') ∧ d ≠ '\r' ∧ d ≠ '\n'
  bounded : ∀ t ∈ tokens, t.endLine ≤ Text.byteLength source.toList ∧
    t.span.stop ≤ Text.byteLength source.toList

theorem paragraphs_tokens (source : String) : Paragraphs source (tokens source) := by
  obtain ⟨runs, hruns, heq⟩ := exists_runs_tokens source
  have hrun {r : Nat × Nat} (hr : r ∈ runs) : IsRun (physicalLines source) r.1 r.2 :=
    ((hruns.mem_iff r.1 r.2).mp hr).1
  have hmem {t : Token} (ht : t ∈ tokens source) :
      ∃ i j, IsRun (physicalLines source) i j ∧ IsParagraph source i j t := by
    rw [heq, List.mem_map] at ht
    obtain ⟨r, hr, rfl⟩ := ht
    exact ⟨r.1, r.2, hrun hr, isParagraph_token (hrun hr)⟩
  have hascending : (tokens source).Pairwise fun t u => t.endLine + 1 < u.line ∧ t.span.stop < u.span.start := by
    rw [heq, List.pairwise_map]
    refine hruns.ascending.imp_of_mem ?_
    intro r s hr hs hlt
    have htr := isParagraph_token (hrun hr)
    have hts := isParagraph_token (hrun hs)
    obtain ⟨_, last, _, hlast, hspan⟩ := htr.span
    obtain ⟨first, _, hfirst, _, hspan'⟩ := hts.span
    rw [htr.endLine, hts.line, hspan, hspan']
    exact ⟨by omega, stop_lt_start hlast hfirst (by omega)⟩
  refine ⟨fun t ht => hmem ht, ?complete, hascending, ?solid, ?blank, ?nonempty, ?ends, ?bounded⟩
  case complete =>
    intro i j hij
    refine ⟨_, ?_, isParagraph_token hij⟩
    rw [heq, List.mem_map]
    exact ⟨(i, j), (hruns.mem_iff i j).mpr ⟨hij, Nat.zero_le i⟩, rfl⟩
  case solid =>
    intro k l hl hsolid
    obtain ⟨r, hr, hcovers⟩ := hruns.covering k l (Nat.zero_le k) hl hsolid
    have ht : (paragraphOf (physicalLines source) r).token source ∈ tokens source := by
      rw [heq]
      exact List.mem_map_of_mem hr
    refine ⟨_, filter_eq_singleton hascending ?_ ht ((isParagraph_token (hrun hr)).coversLine_iff.mpr hcovers)⟩
    rintro t u ⟨hlt, -⟩
    simp only [Token.coversLine, Bool.and_eq_true, decide_eq_true_eq]
    omega
  case blank =>
    intro k l hl hblank
    rw [List.filter_eq_nil_iff]
    intro t ht hcovers
    obtain ⟨i, j, hij, hpar⟩ := hmem ht
    obtain ⟨hik, hkj⟩ := hpar.coversLine_iff.mp hcovers
    exact hij.not_isBlank hik hkj hl hblank
  case nonempty =>
    intro t ht
    obtain ⟨i, j, hij, hpar⟩ := hmem ht
    exact hpar.nonempty hij
  case ends =>
    intro t ht
    obtain ⟨i, j, hij, hpar⟩ := hmem ht
    exact hpar.ends hij
  case bounded =>
    intro t ht
    obtain ⟨i, j, hij, hpar⟩ := hmem ht
    exact hpar.le_byteLength hij

end Tokens

theorem checkSource_eq_ok {source : String} (h : '\x00' ∉ source.toList) : checkSource source = .ok () := by
  have hnone : Text.findOffset? (· == '\x00') source.toList = none := by
    rw [Text.findOffset?_eq_none_iff]
    intro c hc
    rw [beq_eq_false_iff_ne]
    rintro rfl
    exact h hc
  rw [checkSource, hnone]

/-- Whether lines and offsets of a token fit into 32 bits. -/
def FitsUInt32 (t : Token) : Prop :=
  t.line < UInt32.size ∧ t.endLine < UInt32.size ∧ t.span.start < UInt32.size ∧ t.span.stop < UInt32.size

/-- A text without NUL is read into one paragraph for every maximal run of lines that are not blank. Where the
text has less than 2 ^ 32 bytes, none of the numbers in its tokens is too large for 32 bits. -/
theorem parse_into_paragraphs {source : String} (hnul : '\x00' ∉ source.toList)
    (hsize : Text.byteLength source.toList < UInt32.size) :
    ∃ tokens, Parser.plainText.parse source = .ok ⟨.text, tokens⟩ ∧ Paragraphs source tokens ∧
      ∀ t ∈ tokens, FitsUInt32 t := by
  have hparagraphs := paragraphs_tokens source
  refine ⟨tokens source, ?_, hparagraphs, ?_⟩
  · simp [Parser.plainText, checkSource_eq_ok hnul]
  · intro t ht
    obtain ⟨i, j, hij, hpar⟩ := hparagraphs.run t ht
    have hle := hij.le
    have hline := hpar.line
    have hend := hpar.endLine
    have hnonempty := hparagraphs.nonempty t ht
    have hbounded := hparagraphs.bounded t ht
    unfold FitsUInt32
    omega

/-- Two paragraphs: blank lines before, between and after them, all three terminators, and an indentation. -/
theorem parse_mixedTerminators :
    '\x00' ∉ " \ra\r\n\tb \n\r\nc\r".toList ∧ Text.byteLength " \ra\r\n\tb \n\r\nc\r".toList < UInt32.size ∧
      ∃ tokens, Parser.plainText.parse " \ra\r\n\tb \n\r\nc\r" = .ok ⟨.text, tokens⟩ ∧
        Paragraphs " \ra\r\n\tb \n\r\nc\r" tokens ∧ ∀ t ∈ tokens, FitsUInt32 t :=
  ⟨by decide, by decide, parse_into_paragraphs (by decide) (by decide)⟩

end PlainText

end DocLint
