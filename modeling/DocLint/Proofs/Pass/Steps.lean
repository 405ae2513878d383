import DocLint.Proofs.Pass.Conclusion
import Mathlib.Logic.Relation

/-!
# Steps of tasks

Tasks may take their actions in any order among each other. A step is one action of one task, so a
schedule with turns up to the next pause is a special case. Since a task tells its reports to its own
reporter only, no step changes the share that a rule has in the end.
-/

namespace DocLint

set_option autoImplicit false

namespace Ledger

/-- One task that waits takes its next action. -/
inductive Step : Ledger → Ledger → Prop where
  | act {l : Ledger} {k place : Nat} {a : Action} {rest : List Action} {outcome : Outcome}
      (hk : l.pending[k]? = some ⟨place, a :: rest, outcome⟩) :
      Step l { l.act place a with pending := l.pending.set k ⟨place, rest, outcome⟩ }

abbrev Steps : Ledger → Ledger → Prop :=
  Relation.ReflTransGen Step

section Frame
variable (l : Ledger) (place : Nat)

/-- An action changes nothing but the reporter of the rule that takes it, and the calls. -/
theorem act_eq (a : Action) :
    ∃ calls, l.act place a = { l with
      reporters := l.reporters.modify place fun r => r.reportAll (Trace.reportsOf [a])
      calls := calls } := by
  have hkeep : (l.reporters.modify place fun r => r) = l.reporters := List.modify_id place l.reporters
  cases a with
  | report r => exact ⟨l.calls, rfl⟩
  | call c => exact ⟨l.calls ++ [c], by simp [act, hkeep]⟩
  | pause => exact ⟨l.calls, by simp [act, hkeep]⟩

theorem act_with_pending (a : Action) (ts : List Task) :
    { l with pending := ts }.act place a = { l.act place a with pending := ts } := by
  cases a <;> rfl

theorem actAll_with_pending (actions : List Action) (ts : List Task) :
    { l with pending := ts }.actAll place actions = { l.actAll place actions with pending := ts } := by
  induction actions generalizing l with
  | nil => rfl
  | cons a rest ih =>
    rw [actAll, List.foldl_cons, act_with_pending]
    exact ih (l.act place a)

@[simp] theorem pending_act (a : Action) : (l.act place a).pending = l.pending := by
  cases a <;> rfl

@[simp] theorem pending_actAll (actions : List Action) :
    (l.actAll place actions).pending = l.pending := by
  induction actions generalizing l with
  | nil => rfl
  | cons a rest ih => exact (ih (l.act place a)).trans (l.pending_act place a)

end Frame

theorem exists_split {l : Ledger} {k : Nat} {t : Task} (hk : l.pending[k]? = some t) (t' : Task) :
    ∃ before after, l.pending = before ++ t :: after ∧ l.pending.set k t' = before ++ t' :: after := by
  obtain ⟨hlt, ht⟩ := List.getElem?_eq_some_iff.mp hk
  refine ⟨l.pending.take k, l.pending.drop (k + 1), ?_, List.set_eq_take_append_cons_drop.trans ?_⟩
  · rw [← ht, List.getElem_cons_drop, List.take_append_drop]
  · rw [if_pos hlt]

namespace WellPlaced
variable {l : Ledger} {before after : List Task} {t : Task}

theorem place_ne (hl : l.WellPlaced) (hpending : l.pending = before ++ t :: after) :
    (∀ u ∈ before, u.place ≠ t.place) ∧ ∀ u ∈ after, u.place ≠ t.place := by
  have hnodup := (List.nodup_append.mp hl.nodup).2.1
  rw [hpending, List.map_append, List.map_cons] at hnodup
  obtain ⟨-, hafter, hbefore⟩ := List.nodup_append.mp hnodup
  refine ⟨?_, ?_⟩
  · intro u hu
    exact hbefore u.place (List.mem_map_of_mem hu) t.place List.mem_cons_self
  · intro u hu heq
    exact (List.nodup_cons.mp hafter).1 (heq ▸ List.mem_map_of_mem hu)

theorem toReport_eq (hl : l.WellPlaced) (hpending : l.pending = before ++ t :: after) :
    l.toReport t.place = Trace.reportsOf t.remaining := by
  obtain ⟨hbefore, hafter⟩ := hl.place_ne hpending
  have hb : (before.filter fun u => u.place = t.place) = [] := by
    simpa [List.filter_eq_nil_iff] using hbefore
  have ha : (after.filter fun u => u.place = t.place) = [] := by
    simpa [List.filter_eq_nil_iff] using hafter
  rw [toReport, hpending, List.filter_append, List.filter_cons, hb, ha]
  simp

end WellPlaced

namespace Step
variable {l l' : Ledger}

/-- What a step is: one task has one action less, its reporter has been told, and all else is as before. -/
theorem exists_eq (h : Step l l') :
    ∃ before place a rest outcome after calls,
      l.pending = before ++ ⟨place, a :: rest, outcome⟩ :: after ∧
      l' = { l with
        reporters := l.reporters.modify place fun r => r.reportAll (Trace.reportsOf [a])
        calls := calls
        pending := before ++ ⟨place, rest, outcome⟩ :: after } := by
  cases h with
  | @act k place a rest outcome hk =>
    obtain ⟨calls, hact⟩ := l.act_eq place a
    obtain ⟨before, after, hpending, hset⟩ := exists_split hk ⟨place, rest, outcome⟩
    exact ⟨before, place, a, rest, outcome, after, calls, hpending, by rw [hact, hset]⟩

theorem length_reporters (h : Step l l') : l'.reporters.length = l.reporters.length := by
  obtain ⟨before, place, a, rest, outcome, after, calls, -, rfl⟩ := h.exists_eq
  simp

theorem calledPlaces_eq (h : Step l l') : l'.calledPlaces = l.calledPlaces := by
  obtain ⟨before, place, a, rest, outcome, after, calls, hpending, rfl⟩ := h.exists_eq
  simp [calledPlaces, hpending]

theorem wellPlaced (h : Step l l') (hl : l.WellPlaced) : l'.WellPlaced := by
  refine ⟨?_, ?_, ?_⟩
  · rw [h.length_reporters]
    obtain ⟨before, place, a, rest, outcome, after, calls, -, rfl⟩ := h.exists_eq
    exact hl.errors_lt
  · rw [h.calledPlaces_eq, h.length_reporters]
    exact hl.called_lt
  · rw [h.calledPlaces_eq]
    exact hl.nodup

theorem errorsAt_eq (h : Step l l') (k : Nat) : l'.errorsAt k = l.errorsAt k := by
  obtain ⟨before, place, a, rest, outcome, after, calls, hpending, rfl⟩ := h.exists_eq
  by_cases hk : place = k <;> simp [errorsAt, hpending, hk]

/-- A step is a matter of the rule that takes it: every rule will have told its reporter the same in the
end. -/
theorem shareAt_eq (h : Step l l') (hl : l.WellPlaced) (k : Nat) : l'.shareAt k = l.shareAt k := by
  have herrors := h.errorsAt_eq k
  have hcalled := h.calledPlaces_eq
  have hl' := h.wellPlaced hl
  obtain ⟨before, place, a, rest, outcome, after, calls, hpending, rfl⟩ := h.exists_eq
  rw [shareAt, shareAt, herrors, hcalled]
  -- a report goes from the task to the reporter of the same place, and no other place sees it
  by_cases hk : place = k
  · subst hk
    have hnow := hl.toReport_eq hpending
    have hlater := hl'.toReport_eq rfl
    have hreports : Trace.reportsOf (a :: rest) = Trace.reportsOf [a] ++ Trace.reportsOf rest :=
      Trace.reportsOf_append [a] rest
    rw [hnow, hlater, hreports]
    simp [Reporter.reportAll_append, Function.comp_def]
  · have hothers : toReport { l with
        reporters := l.reporters.modify place fun r => r.reportAll (Trace.reportsOf [a])
        calls := calls
        pending := before ++ ⟨place, rest, outcome⟩ :: after } k = l.toReport k := by
      simp [toReport, hpending, hk]
    rw [hothers]
    simp [hk]

theorem holds {shares : List Share} (h : Step l l') (hl : l.Holds shares) : l'.Holds shares := by
  refine ⟨h.wellPlaced hl.wellPlaced, h.length_reporters.trans hl.length, ?_⟩
  intro k
  rw [h.shareAt_eq hl.wellPlaced, hl.shareAt]

end Step

theorem Holds.steps {l l' : Ledger} {shares : List Share} (hl : l.Holds shares) (h : Steps l l') :
    l'.Holds shares := by
  induction h with
  | refl => exact hl
  | tail _ hstep ih => exact hstep.holds ih

theorem steps_actAll {l : Ledger} {k place : Nat} {outcome : Outcome} (now later : List Action)
    (hk : l.pending[k]? = some ⟨place, now ++ later, outcome⟩) :
    Steps l { l.actAll place now with pending := l.pending.set k ⟨place, later, outcome⟩ } := by
  obtain ⟨hlt, ht⟩ := List.getElem?_eq_some_iff.mp hk
  induction now generalizing l with
  | nil =>
    have hsame : l.pending.set k ⟨place, later, outcome⟩ = l.pending := by
      rw [← List.nil_append later, ← ht, List.set_getElem_self]
    rw [hsame]
    exact .refl
  | cons a rest ih =>
    let l₁ : Ledger := { l.act place a with pending := l.pending.set k ⟨place, rest ++ later, outcome⟩ }
    have hlt₁ : k < l₁.pending.length := by simpa [l₁] using hlt
    have hk₁ : l₁.pending[k]? = some ⟨place, rest ++ later, outcome⟩ := List.getElem?_set_self hlt
    have hrest := ih hk₁ hlt₁ (List.getElem?_eq_some_iff.mp hk₁).2
    simp only [l₁, actAll_with_pending, List.set_set] at hrest
    exact (Relation.ReflTransGen.single (.act hk)).trans hrest

theorem splitAtPause_append (actions : List Action) :
    (splitAtPause actions).2 = [] ∧ (splitAtPause actions).1 = actions ∨
      (splitAtPause actions).1 ++ .pause :: (splitAtPause actions).2 = actions := by
  induction actions with
  | nil => exact .inl ⟨rfl, rfl⟩
  | cons a rest ih =>
    cases a with
    | pause => exact .inr rfl
    | report r => simpa [splitAtPause] using ih
    | call c => simpa [splitAtPause] using ih

theorem steps_turn (l : Ledger) (k : Nat) : Steps l (l.turn k) := by
  unfold turn
  split
  · exact .refl
  · next t hk =>
    obtain ⟨place, actions, outcome⟩ := t
    rcases splitAtPause_append actions with ⟨hlater, hnow⟩ | hsplit
    · simp only [hlater, hnow]
      rw [← List.append_nil actions] at hk
      exact steps_actAll actions [] hk
    · rw [← hsplit, ← List.singleton_append, ← List.append_assoc] at hk
      have hsteps := steps_actAll _ _ hk
      simpa [actAll, act] using hsteps

theorem foldl_actAll_with_pending (todo : List Task) (l : Ledger) (ts : List Task) :
    todo.foldl (fun l t => l.actAll t.place t.remaining) { l with pending := ts } =
      { todo.foldl (fun l t => l.actAll t.place t.remaining) l with pending := ts } := by
  induction todo generalizing l with
  | nil => rfl
  | cons t rest ih => rw [List.foldl_cons, actAll_with_pending, ih, List.foldl_cons]

theorem steps_complete (l : Ledger) : Steps l l.complete := by
  -- the tasks that are ready have no actions left and stand before those that are still to act
  have hrest (todo ready : List Task) (l : Ledger) (hpending : l.pending = ready ++ todo) :
      Steps l { todo.foldl (fun l t => l.actAll t.place t.remaining) l with
        pending := ready ++ todo.map fun t => { t with remaining := [] } } := by
    induction todo generalizing ready l with
    | nil =>
      rw [List.map_nil, ← hpending]
      exact .refl
    | cons t rest ih =>
      have ht : l.pending[ready.length]? = some ⟨t.place, t.remaining ++ [], t.outcome⟩ := by
        simp [hpending]
      have hsteps := steps_actAll t.remaining [] ht
      have hset : l.pending.set ready.length ⟨t.place, [], t.outcome⟩ =
          ready ++ [⟨t.place, [], t.outcome⟩] ++ rest := by
        simp [hpending]
      rw [hset] at hsteps
      have hmore := ih (ready ++ [⟨t.place, [], t.outcome⟩])
        { l.actAll t.place t.remaining with pending := ready ++ [⟨t.place, [], t.outcome⟩] ++ rest } rfl
      rw [foldl_actAll_with_pending] at hmore
      simpa using hsteps.trans hmore
  exact hrest l.pending [] l rfl

theorem idle_complete (l : Ledger) : l.complete.Idle := by
  intro t ht
  obtain ⟨u, -, rfl⟩ := List.mem_map.mp ht
  rfl

theorem steps_runTasks (schedule : List Nat) (l : Ledger) : Steps l (l.runTasks schedule) := by
  have hturns : Steps l (schedule.foldl turn l) := by
    induction schedule generalizing l with
    | nil => exact .refl
    | cons k rest ih => exact (l.steps_turn k).trans (ih (l.turn k))
  exact hturns.trans (steps_complete _)

theorem idle_runTasks (schedule : List Nat) (l : Ledger) : (l.runTasks schedule).Idle :=
  idle_complete _

theorem calledPlaces_join (l : Ledger) : l.join.calledPlaces = l.calledPlaces := by
  rw [join_eq]
  simp [calledPlaces]

theorem WellPlaced.join {l : Ledger} (hl : l.WellPlaced) : l.join.WellPlaced := by
  have hreporters : l.join.reporters = l.reporters := by rw [join_eq]
  refine ⟨?_, ?_, ?_⟩
  · intro e he
    have herrors : e ∈ l.errors ++ l.pending.flatMap taskErrors := by rwa [join_eq] at he
    rw [hreporters]
    rcases List.mem_append.mp herrors with he | he
    · exact hl.errors_lt e he
    · obtain ⟨t, ht, het⟩ := List.mem_flatMap.mp he
      obtain ⟨_, _, rfl⟩ := List.mem_map.mp het
      exact hl.place_lt ht
  · rw [calledPlaces_join, hreporters]
    exact hl.called_lt
  · rw [calledPlaces_join]
    exact hl.nodup

theorem Holds.join {l : Ledger} {shares : List Share} (h : l.Holds shares) (hidle : l.Idle) :
    l.join.Holds shares := by
  have hreporters : l.join.reporters = l.reporters := by rw [join_eq]
  have hpending : l.join.pending = [] := by rw [join_eq]
  refine ⟨h.wellPlaced.join, by rw [hreporters, h.length], ?_⟩
  intro k
  have herrors : l.join.errorsAt k = l.errorsAt k := by
    rw [errorsAt, errors_join_filter, hpending]
    simp [Function.comp_def]
  rw [h.getElem?_of_idle hidle k, Ledger.shareAt, herrors, calledPlaces_join, hreporters, toReport, hpending]
  rfl

theorem join_of_pending_nil {l : Ledger} (h : l.pending = []) : l.join = l := by
  rw [join, h, List.foldl_nil, ← h]

end Ledger

end DocLint
