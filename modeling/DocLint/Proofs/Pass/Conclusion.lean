import DocLint.Proofs.Pass.Shares
import DocLint.Proofs.StableSort
import Mathlib.Data.List.Induction
import Mathlib.Data.Nat.Basic

/-!
# The result of a ledger

When every task has acted to its end, the result that is made of a ledger is the one that the shares in it
make up. Errors and ends have been noted in the order in which they came about; sorting them by place puts
them in the order of the rules, and keeps the order inside each rule.
-/

namespace DocLint

set_option autoImplicit false

/-- What some values hold, each with the place of its value. -/
def byPlace {α β : Type} (f : α → List β) (xs : List α) : List (Nat × β) :=
  xs.zipIdx.flatMap fun (x, k) => (f x).map fun b => (k, b)

section ByPlace
variable {α β γ : Type} (f : α → List β)

theorem byPlace_append_singleton (xs : List α) (x : α) :
    byPlace f (xs ++ [x]) = byPlace f xs ++ (f x).map fun b => (xs.length, b) := by
  simp [byPlace, List.zipIdx_append]

theorem fst_lt_of_mem_byPlace {xs : List α} {e : Nat × β} (h : e ∈ byPlace f xs) :
    e.1 < xs.length := by
  obtain ⟨⟨x, k⟩, hx, he⟩ := List.mem_flatMap.mp h
  obtain ⟨b, _, rfl⟩ := List.mem_map.mp he
  exact (List.mem_zipIdx' hx).1

theorem byPlace_sorted (xs : List α) : (byPlace f xs).Pairwise fun a b => a.1 ≤ b.1 := by
  induction xs using List.reverseRecOn with
  | nil => exact List.Pairwise.nil
  | append_singleton xs x ih =>
    rw [byPlace_append_singleton, List.pairwise_append]
    refine ⟨ih, ?_, ?_⟩
    · rw [List.pairwise_map]
      exact List.pairwise_of_forall fun _ _ => Nat.le_refl _
    · intro a ha b hb
      obtain ⟨_, _, rfl⟩ := List.mem_map.mp hb
      exact Nat.le_of_lt (fst_lt_of_mem_byPlace f ha)

theorem byPlace_filter (xs : List α) (k : Nat) :
    ((byPlace f xs).filter fun e => e.1 = k) = ((xs[k]?.map f).getD []).map fun b => (k, b) := by
  induction xs using List.reverseRecOn with
  | nil => rfl
  | append_singleton xs x ih =>
    rw [byPlace_append_singleton, List.filter_append, ih]
    rcases Nat.lt_trichotomy k xs.length with hlt | heq | hgt
    · have hne : xs.length ≠ k := by omega
      simp [List.getElem?_append_left hlt, hne, List.filter_map, Function.comp_def]
    · subst heq
      simp [List.filter_map, Function.comp_def]
    · have hne : xs.length ≠ k := by omega
      have hnone : (xs ++ [x])[k]? = none := List.getElem?_eq_none (by simp; omega)
      have hnone' : xs[k]? = none := List.getElem?_eq_none (by omega)
      simp [hnone, hnone', hne, List.filter_map, Function.comp_def]

/-- Looking up the places again gives what the values hold, value by value. -/
theorem byPlace_filterMap (xs : List α) (look : Nat × β → Option γ) (h : α → β → γ)
    (hlook : ∀ k x, xs[k]? = some x → ∀ b, look (k, b) = some (h x b)) :
    (byPlace f xs).filterMap look = xs.flatMap fun x => (f x).map (h x) := by
  have hinner : ∀ p ∈ xs.zipIdx,
      ((f p.1).map fun b => (p.2, b)).filterMap look = (f p.1).map (h p.1) := by
    intro p hp
    have hget : xs[p.2]? = some p.1 := List.mk_mem_zipIdx_iff_getElem?.mp hp
    rw [List.filterMap_map, ← List.filterMap_eq_map]
    apply List.filterMap_congr
    intro b _
    exact hlook p.2 p.1 hget b
  calc (byPlace f xs).filterMap look
      = xs.zipIdx.flatMap fun p => ((f p.1).map fun b => (p.2, b)).filterMap look := by
        rw [byPlace, List.filterMap_flatMap]
    _ = xs.zipIdx.flatMap fun p => (f p.1).map (h p.1) := List.flatMap_congr hinner
    _ = (xs.zipIdx.map Prod.fst).flatMap fun x => (f x).map (h x) := by rw [List.flatMap_map]
    _ = xs.flatMap fun x => (f x).map (h x) := by rw [List.zipIdx_map_fst]

end ByPlace

namespace Ledger

def Idle (l : Ledger) : Prop :=
  ∀ t ∈ l.pending, t.remaining = []

def taskErrors (t : Task) : List (Nat × RuleError) :=
  t.outcome.error?.toList.map fun e => (t.place, e)

/-- Joining notes the ends of all tasks in the order in which they were called, and nothing else. -/
theorem join_eq (l : Ledger) :
    l.join = { l with
      ended := l.calledPlaces
      errors := l.errors ++ l.pending.flatMap taskErrors
      pending := [] } := by
  have hfold (ts : List Task) (m : Ledger) :
      ts.foldl (fun l t => l.finish t.place t.outcome) m =
        { m with ended := m.ended ++ ts.map Task.place, errors := m.errors ++ ts.flatMap taskErrors } := by
    induction ts generalizing m with
    | nil => simp
    | cons t rest ih =>
      rw [List.foldl_cons, ih]
      simp [finish, taskErrors]
  rw [join, hfold]
  rfl

theorem errors_join_filter (l : Ledger) (k : Nat) :
    (l.join.errors.filter fun e => e.1 = k) = (l.errorsAt k).map fun e => (k, e) := by
  have hown (es : List (Nat × RuleError)) :
      (es.filter fun e => e.1 = k) = ((es.filter fun e => e.1 = k).map (·.2)).map fun e => (k, e) := by
    rw [List.map_map, List.map_congr_left, List.map_id]
    intro e he
    have hek : e.1 = k := by simpa using (List.mem_filter.mp he).2
    rw [← hek]
    rfl
  have htasks (ts : List Task) :
      ((ts.flatMap taskErrors).filter fun e => e.1 = k) =
        ((ts.filter fun t => t.place = k).flatMap fun t => t.outcome.error?.toList).map
          fun e => (k, e) := by
    induction ts with
    | nil => rfl
    | cons t rest ih =>
      rw [List.flatMap_cons, List.filter_append, ih]
      by_cases ht : t.place = k
      · simp [ht, taskErrors, List.filter_map, Function.comp_def]
      · simp [ht, taskErrors, List.filter_map, Function.comp_def]
  rw [join_eq, List.filter_append, hown, htasks, errorsAt, List.map_append]

namespace Holds
variable {l : Ledger} {shares : List Share}

/-- When nothing is left to be done, the shares are what has been done. -/
theorem getElem?_of_idle (h : l.Holds shares) (hidle : l.Idle) (k : Nat) :
    shares[k]? = (l.reporters[k]?).map fun r =>
      shareOf r (l.errorsAt k) (decide (k ∈ l.calledPlaces)) := by
  have hnone : l.toReport k = [] := by
    rw [toReport, List.flatMap_eq_nil_iff]
    intro t ht
    rw [hidle t (List.mem_filter.mp ht).1]
    rfl
  rw [← h.shareAt, Ledger.shareAt, hnone]
  rfl

theorem violations_eq (h : l.Holds shares) (hidle : l.Idle) :
    l.reporters.flatMap Reporter.violations = shares.flatMap Share.violations := by
  have hmap : l.reporters.map Reporter.violations = shares.map Share.violations := by
    apply List.ext_getElem?
    intro k
    rw [List.getElem?_map, List.getElem?_map, h.getElem?_of_idle hidle, Option.map_map]
    rfl
  rw [List.flatMap_def, List.flatMap_def, hmap]

/-- Sorted by their places, errors and defects are those of the shares, share by share. -/
theorem sorted_errors (h : l.Holds shares) (hidle : l.Idle) :
    ((l.join.errors ++ Pass.defects l).mergeSort fun a b => a.1 ≤ b.1) = byPlace Share.errors shares := by
  refine mergeSort_eq_of_filter_eq Prod.fst (fun a b => decide_eq_true_iff)
    (byPlace_sorted _ _) ?_
  intro k
  have hdefects : Pass.defects l = byPlace Reporter.defects l.reporters := rfl
  rw [List.filter_append, hdefects, byPlace_filter, byPlace_filter, errors_join_filter,
    h.getElem?_of_idle hidle]
  rcases Nat.lt_or_ge k l.reporters.length with hlt | hge
  · simp [List.getElem?_eq_getElem hlt, shareOf]
  · simp [List.getElem?_eq_none hge, h.wellPlaced.errorsAt_eq_nil hge]

/-- Sorted, the places that have been called are those of the shares that say so. -/
theorem sorted_calledPlaces (h : l.Holds shares) (hidle : l.Idle) :
    (l.calledPlaces.mergeSort fun a b => a ≤ b) =
      (byPlace (fun s => if s.called then [()] else []) shares).map Prod.fst := by
  refine mergeSort_eq_of_filter_eq id (fun a b => decide_eq_true_iff) ?_ ?_
  · rw [List.pairwise_map]
    exact byPlace_sorted _ _
  · intro k
    have hplaces := byPlace_filter (fun s : Share => if s.called then [()] else []) shares k
    simp only [List.filter_map, Function.comp_def, id] at hplaces ⊢
    rw [hplaces, h.getElem?_of_idle hidle]
    -- a rule that has been called has been called once, so its place is there once
    by_cases hk : k ∈ l.calledPlaces
    · have hlt := h.wellPlaced.called_lt k hk
      have hcount := List.count_eq_one_of_mem h.wellPlaced.nodup hk
      have honce : (l.calledPlaces.filter fun a => a = k) = [k] := by
        rw [List.filter_eq, hcount]
        rfl
      simp [List.getElem?_eq_getElem hlt, shareOf, hk, honce]
    · have hnone : (l.calledPlaces.filter fun a => a = k) = [] := by
        rw [List.filter_eq_nil_iff]
        intro a ha hak
        exact hk ((decide_eq_true_iff.mp hak) ▸ ha)
      rw [hnone]
      cases l.reporters[k]? <;> simp [shareOf, hk]

end Holds

end Ledger

namespace Pass
variable {l : Ledger} {shares : List Share} {invs : List Invocation}

theorem name_getElem? (hnames : shares.map Share.rule = invs.map fun inv => inv.rule.name) {k : Nat}
    {s : Share} (hs : shares[k]? = some s) : ∃ inv, invs[k]? = some inv ∧ inv.rule.name = s.rule := by
  have hk : (shares.map Share.rule)[k]? = some s.rule := by simp [hs]
  rw [hnames, List.getElem?_map, Option.map_eq_some_iff] at hk
  exact hk

theorem failures_eq (h : l.Holds shares) (hidle : l.Idle)
    (hnames : shares.map Share.rule = invs.map fun inv => inv.rule.name) :
    failures invs l.join = shares.flatMap Share.failures := by
  have hdefects : defects l.join = defects l := by
    rw [Ledger.join_eq]
    rfl
  rw [failures, hdefects, h.sorted_errors hidle]
  refine byPlace_filterMap Share.errors shares _ (fun s e => (⟨s.rule, e⟩ : RuleFailure)) ?_
  intro k s hs e
  obtain ⟨inv, hinv, hname⟩ := name_getElem? hnames hs
  simp [hinv, hname]

theorem flatMap_called (shares : List Share) :
    (shares.flatMap fun s => (if s.called then [()] else []).map fun _ => s.rule) =
      (shares.filter Share.called).map Share.rule := by
  induction shares with
  | nil => rfl
  | cons s rest ih =>
    rw [List.flatMap_cons, ih]
    cases hs : s.called <;> simp [hs]

theorem timings_eq (config : Config) (h : l.Holds shares) (hidle : l.Idle)
    (hnames : shares.map Share.rule = invs.map fun inv => inv.rule.name) :
    timings config invs l.join =
      if config.timings then (shares.filter Share.called).map Share.rule else [] := by
  have hended : l.join.ended = l.calledPlaces := by rw [Ledger.join_eq]
  rw [timings, hended, h.sorted_calledPlaces hidle, List.filterMap_map, ← flatMap_called]
  congr 1
  refine byPlace_filterMap _ shares _ (fun (s : Share) _ => s.rule) ?_
  intro k s hs _
  obtain ⟨inv, hinv, hname⟩ := name_getElem? hnames hs
  simp [hinv, hname]

/-- The result made of a ledger in which all tasks have acted to their ends is the one that the shares in
it make up. -/
theorem conclude_eq_assemble (config : Config) (name : String) (h : l.Holds shares) (hidle : l.Idle)
    (hnames : shares.map Share.rule = invs.map fun inv => inv.rule.name) :
    conclude config name invs l.join = assemble config name shares := by
  have hviolations : violations config l.join = arrange config (shares.flatMap Share.violations) := by
    rw [violations, Ledger.join_eq]
    exact congrArg (arrange config) (h.violations_eq hidle)
  rw [conclude, hviolations, failures_eq h hidle hnames, timings_eq config h hidle hnames]
  rfl

end Pass

end DocLint
