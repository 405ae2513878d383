import DocLint.Proofs.Pass.Alone
import Mathlib.Data.List.Nodup

/-!
# Shares in a ledger

At every moment of a pass the ledger tells the share that each rule called so far will have in the end: what
its reporter holds together with what its task still has to report. Calling a rule adds the share that the
rule has when it runs alone, and leaves all others as they are.
-/

namespace DocLint

set_option autoImplicit false

namespace Ledger

def calledPlaces (l : Ledger) : List Nat :=
  l.ended ++ l.pending.map Task.place

def toReport (l : Ledger) (k : Nat) : List Report :=
  (l.pending.filter fun t => t.place = k).flatMap fun t => Trace.reportsOf t.remaining

/-- Why the rule at a place was not called or does not end well. -/
def errorsAt (l : Ledger) (k : Nat) : List RuleError :=
  (l.errors.filter fun e => e.1 = k).map (·.2) ++
    (l.pending.filter fun t => t.place = k).flatMap fun t => t.outcome.error?.toList

/-- The share that a reporter and some errors make up. -/
def shareOf (r : Reporter) (errors : List RuleError) (called : Bool) : Share :=
  ⟨r.descriptor.name, r.violations, errors ++ r.defects, called⟩

/-- The share that the rule at a place will have in the end. -/
def shareAt (l : Ledger) (k : Nat) : Option Share :=
  (l.reporters[k]?).map fun r =>
    shareOf (r.reportAll (l.toReport k)) (l.errorsAt k) (decide (k ∈ l.calledPlaces))

/-- All entries are at places of rules, and no rule has been called twice. -/
structure WellPlaced (l : Ledger) : Prop where
  errors_lt : ∀ e ∈ l.errors, e.1 < l.reporters.length
  called_lt : ∀ k ∈ l.calledPlaces, k < l.reporters.length
  nodup : l.calledPlaces.Nodup

theorem wellPlaced_empty : empty.WellPlaced :=
  ⟨by simp [empty], by simp [empty, calledPlaces], by simp [empty, calledPlaces]⟩

@[simp] theorem shareAt_empty (k : Nat) : empty.shareAt k = none := by
  simp [shareAt, empty]

namespace WellPlaced
variable {l : Ledger}

theorem place_lt (hl : l.WellPlaced) {t : Task} (ht : t ∈ l.pending) :
    t.place < l.reporters.length :=
  hl.called_lt _ (List.mem_append_right _ (List.mem_map_of_mem ht))

theorem not_mem_calledPlaces (hl : l.WellPlaced) : l.reporters.length ∉ l.calledPlaces :=
  fun h => Nat.lt_irrefl _ (hl.called_lt _ h)

section Unused
variable {k : Nat} (hk : l.reporters.length ≤ k)
include hk

theorem errors_filter_eq_nil (hl : l.WellPlaced) : (l.errors.filter fun e => e.1 = k) = [] := by
  rw [List.filter_eq_nil_iff]
  intro e he
  have := hl.errors_lt e he
  simp only [decide_eq_true_eq]
  omega

theorem pending_filter_eq_nil (hl : l.WellPlaced) : (l.pending.filter fun t => t.place = k) = [] := by
  rw [List.filter_eq_nil_iff]
  intro t ht
  have := hl.place_lt ht
  simp only [decide_eq_true_eq]
  omega

theorem errorsAt_eq_nil (hl : l.WellPlaced) : l.errorsAt k = [] := by
  rw [errorsAt, hl.errors_filter_eq_nil hk, hl.pending_filter_eq_nil hk]
  rfl

end Unused

end WellPlaced

/-- `l'` is `l` with one more rule, which has the share `s`. -/
structure Gains (l : Ledger) (s : Share) (l' : Ledger) : Prop where
  wellPlaced : l'.WellPlaced
  length : l'.reporters.length = l.reporters.length + 1
  shareAt : ∀ k, l'.shareAt k = if k = l.reporters.length then some s else l.shareAt k

theorem getElem?_enter_of_ne {l : Ledger} (r : Reporter) {k : Nat} (hk : k ≠ l.reporters.length) :
    (l.reporters ++ [r])[k]? = l.reporters[k]? := by
  rcases Nat.lt_or_gt_of_ne hk with hlt | hgt
  · exact List.getElem?_append_left hlt
  · rw [List.getElem?_eq_none (by simp; omega), List.getElem?_eq_none (by omega)]

section Gains
variable {l l' : Ledger} {r : Reporter} {errors : List RuleError} {ended : List Nat} {tasks : List Task}
  {called : Bool}

theorem calledPlaces_perm (hended : l'.ended = l.ended ++ ended) (hpending : l'.pending = l.pending ++ tasks)
    (hplaces : ended ++ tasks.map Task.place = if called then [l.reporters.length] else []) :
    l'.calledPlaces.Perm (l.calledPlaces ++ if called then [l.reporters.length] else []) := by
  rw [← hplaces]
  simp only [calledPlaces, hended, hpending, List.map_append, List.append_assoc]
  apply List.Perm.append_left
  simp only [← List.append_assoc]
  exact List.perm_append_comm.append_right _

theorem wellPlaced_of_entered (hl : l.WellPlaced) (hreporters : l'.reporters = l.reporters ++ [r])
    (herrors : l'.errors = l.errors ++ errors.map fun e => (l.reporters.length, e))
    (hcalled : l'.calledPlaces.Perm (l.calledPlaces ++ if called then [l.reporters.length] else [])) :
    l'.WellPlaced := by
  have hlen : l'.reporters.length = l.reporters.length + 1 := by simp [hreporters]
  refine ⟨?_, ?_, ?_⟩
  · intro e he
    rw [herrors] at he
    rw [hlen]
    rcases List.mem_append.mp he with he | he
    · exact Nat.lt_succ_of_lt (hl.errors_lt e he)
    · obtain ⟨_, _, rfl⟩ := List.mem_map.mp he
      exact Nat.lt_succ_self _
  · intro k hk
    rw [hlen]
    rcases List.mem_append.mp (hcalled.mem_iff.mp hk) with hk | hk
    · exact Nat.lt_succ_of_lt (hl.called_lt k hk)
    · cases called <;> simp at hk
      omega
  · rw [hcalled.nodup_iff]
    cases called with
    | false => simpa using hl.nodup
    | true => simpa [List.nodup_append] using ⟨hl.nodup, fun k hk h => hl.not_mem_calledPlaces (h ▸ hk)⟩

/-- What a call enters for a rule makes up the share of that rule and touches no other share. -/
theorem gains_of_entered {s : Share} (hl : l.WellPlaced) (r : Reporter) (errors : List RuleError)
    (ended : List Nat) (tasks : List Task) (called : Bool)
    (hreporters : l'.reporters = l.reporters ++ [r])
    (herrors : l'.errors = l.errors ++ errors.map fun e => (l.reporters.length, e))
    (hended : l'.ended = l.ended ++ ended) (hpending : l'.pending = l.pending ++ tasks)
    (hplaces : ended ++ tasks.map Task.place = if called then [l.reporters.length] else [])
    (hshare : shareOf (r.reportAll (tasks.flatMap fun t => Trace.reportsOf t.remaining))
      (errors ++ tasks.flatMap fun t => t.outcome.error?.toList) called = s) :
    l.Gains s l' := by
  subst hshare
  have hcalled := calledPlaces_perm hended hpending hplaces
  have htasks : ∀ t ∈ tasks, t.place = l.reporters.length := by
    intro t ht
    have hmem : t.place ∈ ended ++ tasks.map Task.place :=
      List.mem_append_right _ (List.mem_map_of_mem ht)
    rw [hplaces] at hmem
    cases called <;> simp at hmem
    exact hmem
  refine ⟨wellPlaced_of_entered hl hreporters herrors hcalled, by simp [hreporters], ?_⟩
  intro k
  have hmem : k ∈ l'.calledPlaces ↔ k ∈ l.calledPlaces ∨ called = true ∧ k = l.reporters.length := by
    rw [hcalled.mem_iff, List.mem_append]
    cases called <;> simp
  -- the new place holds what the call has entered, and the other places are looked up as before
  by_cases hk : k = l.reporters.length
  · subst hk
    have hown : (tasks.filter fun t => t.place = l.reporters.length) = tasks := by
      rw [List.filter_eq_self]
      intro t ht
      simp [htasks t ht]
    have hcalledk : decide (l.reporters.length ∈ l'.calledPlaces) = called := by
      cases called <;> simp [hmem, hl.not_mem_calledPlaces]
    simp [Ledger.shareAt, toReport, errorsAt, hreporters, herrors, hpending, hown, hcalledk,
      hl.pending_filter_eq_nil (Nat.le_refl _), hl.errors_filter_eq_nil (Nat.le_refl _), List.filter_map,
      Function.comp_def]
  · have hother : (tasks.filter fun t => t.place = k) = [] := by
      rw [List.filter_eq_nil_iff]
      intro t ht
      simp [htasks t ht, Ne.symm hk]
    simp [Ledger.shareAt, toReport, errorsAt, hreporters, herrors, hpending, hother, hmem, hk,
      Ne.symm hk, getElem?_enter_of_ne r hk, List.filter_map, Function.comp_def]

end Gains

theorem Gains.of_calls {l l' : Ledger} {s : Share} (calls : List AnalyzerCall)
    (h : { l with calls := calls }.Gains s l') : l.Gains s l' :=
  ⟨h.wellPlaced, h.length, h.shareAt⟩

theorem WellPlaced.with_calls {l : Ledger} (hl : l.WellPlaced) (calls : List AnalyzerCall) :
    { l with calls := calls }.WellPlaced :=
  ⟨hl.errors_lt, hl.called_lt, hl.nodup⟩

theorem actAll_enter (l : Ledger) (r : Reporter) (actions : List Action) :
    ∃ calls, (l.enter r).actAll l.reporters.length actions =
      { l with calls := calls }.enter (r.reportAll (Trace.reportsOf actions)) := by
  induction actions generalizing l r with
  | nil => exact ⟨l.calls, rfl⟩
  | cons a rest ih =>
    cases a with
    | report x =>
      have hact : (l.enter r).act l.reporters.length (.report x) = l.enter (r.report x) := by
        have hlast : l.reporters.length < (l.reporters ++ [r]).length := by simp
        simp [enter, act, List.modify_eq_take_cons_drop hlast]
      obtain ⟨calls, hcalls⟩ := ih l (r.report x)
      refine ⟨calls, ?_⟩
      rw [actAll, List.foldl_cons, hact]
      exact hcalls
    | call c =>
      obtain ⟨calls, hcalls⟩ := ih { l with calls := l.calls ++ [c] } r
      exact ⟨calls, hcalls⟩
    | pause =>
      obtain ⟨calls, hcalls⟩ := ih l r
      exact ⟨calls, hcalls⟩

/-- The ledger holds the shares of the rules called so far, in order. -/
structure Holds (l : Ledger) (shares : List Share) : Prop where
  wellPlaced : l.WellPlaced
  length : l.reporters.length = shares.length
  shareAt : ∀ k, l.shareAt k = shares[k]?

theorem holds_empty : empty.Holds [] :=
  ⟨wellPlaced_empty, rfl, by simp⟩

theorem Holds.gain {l l' : Ledger} {shares : List Share} {s : Share} (h : l.Holds shares)
    (hgain : l.Gains s l') : l'.Holds (shares ++ [s]) := by
  refine ⟨hgain.wellPlaced, by simp [hgain.length, h.length], ?_⟩
  intro k
  rw [hgain.shareAt, h.length, h.shareAt]
  split
  · next hk => simp [hk]
  · next hk =>
    rcases Nat.lt_or_gt_of_ne hk with hlt | hgt
    · rw [List.getElem?_append_left hlt]
    · rw [List.getElem?_eq_none (by omega), List.getElem?_eq_none (by simp; omega)]

end Ledger

/-- Two computations stop for the same reason, or their values are related. -/
inductive SameOutcome {α β : Type} (R : α → β → Prop) :
    Except PassStop α → Except PassStop β → Prop where
  | error (stop : PassStop) : SameOutcome R (.error stop) (.error stop)
  | ok {a : α} {b : β} (h : R a b) : SameOutcome R (.ok a) (.ok b)

namespace SameOutcome
variable {α β γ δ : Type} {R : α → β → Prop} {S : γ → δ → Prop}
  {x : Except PassStop α} {y : Except PassStop β}

theorem bind {f : α → Except PassStop γ} {g : β → Except PassStop δ} (h : SameOutcome R x y)
    (hfg : ∀ a b, R a b → SameOutcome S (f a) (g b)) : SameOutcome S (x >>= f) (y >>= g) := by
  cases h with
  | error stop => exact .error stop
  | ok hab => exact hfg _ _ hab

theorem mono {T : α → β → Prop} (h : SameOutcome R x y) (himp : ∀ a b, R a b → T a b) :
    SameOutcome T x y := by
  cases h with
  | error stop => exact .error stop
  | ok hab => exact .ok (himp _ _ hab)

end SameOutcome

theorem shareOf_reportAll (n : Nat) (inv : Invocation) (t : Trace) :
    Ledger.shareOf
      ((Reporter.new inv.rule.descriptor inv.settings.severity n).reportAll t.reports)
      t.outcome.error?.toList true = inv.ran n t := by
  rw [Reporter.reportAll_eq]
  rfl

namespace Pass
variable {l : Ledger} (documents : List Document) (n : Nat)

theorem gains_refuse (hl : l.WellPlaced) (inv : Invocation) (e : RuleError) :
    l.Gains (inv.refused e)
      ((l.enter (Reporter.new inv.rule.descriptor inv.settings.severity n)).refuse
        l.reporters.length e) :=
  Ledger.gains_of_entered hl _ [e] [] [] false rfl rfl (List.append_nil _).symm
    (List.append_nil _).symm rfl rfl

theorem gains_finish (hl : l.WellPlaced) (inv : Invocation) (t : Trace) :
    l.Gains (inv.ran n t)
      (((l.enter (Reporter.new inv.rule.descriptor inv.settings.severity n)).actAll
        l.reporters.length t.actions).finish l.reporters.length t.outcome) := by
  obtain ⟨calls, hcalls⟩ :=
    l.actAll_enter (Reporter.new inv.rule.descriptor inv.settings.severity n) t.actions
  rw [hcalls]
  apply Ledger.Gains.of_calls calls
  refine Ledger.gains_of_entered (hl.with_calls calls) _ t.outcome.error?.toList
    [l.reporters.length] [] true rfl rfl rfl (List.append_nil _).symm rfl ?_
  rw [← shareOf_reportAll]
  simp [Trace.reports]

theorem gains_suspend (hl : l.WellPlaced) (inv : Invocation) (atOnce : List Action) (t : Trace) :
    l.Gains (inv.ran n ⟨atOnce ++ t.actions, t.outcome⟩)
      (((l.enter (Reporter.new inv.rule.descriptor inv.settings.severity n)).actAll
        l.reporters.length atOnce).suspend ⟨l.reporters.length, t.actions, t.outcome⟩) := by
  obtain ⟨calls, hcalls⟩ :=
    l.actAll_enter (Reporter.new inv.rule.descriptor inv.settings.severity n) atOnce
  rw [hcalls]
  apply Ledger.Gains.of_calls calls
  refine Ledger.gains_of_entered (hl.with_calls calls) _ [] []
    [⟨l.reporters.length, t.actions, t.outcome⟩] true rfl (List.append_nil _).symm
    (List.append_nil _).symm rfl rfl ?_
  rw [← shareOf_reportAll]
  simp [Trace.reports, Reporter.reportAll_append]

theorem sameOutcome_call (hl : l.WellPlaced) (inv : Invocation) :
    SameOutcome (fun l' s => l.Gains s l') (call documents n l inv) (inv.share documents n) := by
  unfold call Invocation.share
  cases documents.find? fun d => d.parser = inv.parser with
  | none => exact .ok (gains_refuse n hl inv _)
  | some document =>
    cases inv.rule.validate inv.settings.options with
    | panicked m => exact .error _
    | rejected e => exact .ok (gains_refuse n hl inv e)
    | accepted =>
      unfold Rule.trace
      cases inv.rule.function with
      | sync run => exact .ok (gains_finish n hl inv (run ⟨document, inv.settings.options⟩))
      | async start =>
        simp only []
        cases start ⟨document, inv.settings.options⟩ with
        | started atOnce t => exact .ok (gains_suspend n hl inv atOnce t)
        | panicked atOnce m => exact .ok (gains_finish n hl inv ⟨atOnce, .panicked m⟩)

/-- When every call keeps an invariant and adds the share that the rule has alone, calling some rules stops
the pass when the rules do alone, and else adds their shares in order. -/
theorem sameOutcome_foldlM {step : Ledger → Invocation → Except PassStop Ledger}
    {P : Ledger → List Share → Prop}
    (hstep : ∀ l held inv, P l held →
      SameOutcome (fun l' s => P l' (held ++ [s])) (step l inv) (inv.share documents n))
    {held : List Share} (hl : P l held) (invs : List Invocation) :
    SameOutcome (fun l' new => P l' (held ++ new)) (invs.foldlM step l) (shares documents n invs) := by
  unfold shares
  induction invs generalizing l held with
  | nil => exact .ok (by simpa using hl)
  | cons inv rest ih =>
    rw [List.foldlM_cons, List.mapM_cons]
    refine (hstep l held inv hl).bind ?_
    intro l' s hl'
    have hrest := ih hl'
    generalize rest.foldlM step l' = calls at hrest ⊢
    generalize rest.mapM (Invocation.share documents n) = more at hrest ⊢
    cases hrest with
    | error stop => exact .error stop
    | ok hnew => exact .ok (by simpa using hnew)

theorem sameOutcome_callAll (invs : List Invocation) :
    SameOutcome Ledger.Holds (callAll documents n invs) (shares documents n invs) := by
  refine sameOutcome_foldlM documents n ?_ Ledger.holds_empty invs
  intro l held inv hl
  exact (sameOutcome_call documents n hl.wellPlaced inv).mono fun _ _ hgain => hl.gain hgain

end Pass

end DocLint
