import DocLint.Proofs.Pass.Steps

/-!
# The calls of a pass

A pass makes the calls to analyzers that its rules make when they run alone, each as often as they do. The
schedule decides about their order only: the calls of a ledger are those that have been made and those that its
tasks still have to make, and a step takes a call from these to those.
-/

namespace DocLint

set_option autoImplicit false

namespace Ledger

/-- The calls that have been made, and those that tasks still have to make. -/
def allCalls (l : Ledger) : List AnalyzerCall :=
  l.calls ++ l.pending.flatMap fun t => Trace.callsOf t.remaining

theorem callsOf_cons (a : Action) (rest : List Action) :
    Trace.callsOf (a :: rest) = Trace.callsOf [a] ++ Trace.callsOf rest :=
  Trace.callsOf_append [a] rest

section Operations
variable (l : Ledger) (place : Nat)

theorem calls_act (a : Action) : (l.act place a).calls = l.calls ++ Trace.callsOf [a] := by
  cases a <;> simp [act]

theorem calls_actAll (actions : List Action) :
    (l.actAll place actions).calls = l.calls ++ Trace.callsOf actions := by
  induction actions generalizing l with
  | nil => exact (List.append_nil l.calls).symm
  | cons a rest ih =>
    rw [callsOf_cons, ← List.append_assoc, ← calls_act]
    exact ih (l.act place a)

theorem allCalls_actAll (actions : List Action) :
    (l.actAll place actions).allCalls.Perm (l.allCalls ++ Trace.callsOf actions) := by
  rw [allCalls, calls_actAll, pending_actAll, allCalls, List.append_assoc, List.append_assoc]
  exact List.perm_append_comm.append_left l.calls

theorem allCalls_suspend (t : Task) :
    (l.suspend t).allCalls = l.allCalls ++ Trace.callsOf t.remaining := by
  simp [allCalls, suspend]

end Operations

variable {l l' : Ledger}

/-- The call that a task makes was among those that it still had to make. -/
theorem Step.allCalls_perm (h : Step l l') : l'.allCalls.Perm l.allCalls := by
  cases h with
  | @act k place a rest outcome hk =>
    obtain ⟨before, after, hpending, hset⟩ := exists_split hk ⟨place, rest, outcome⟩
    simp only [allCalls, hset]
    simp only [hpending, calls_act, callsOf_cons a rest, List.flatMap_append, List.flatMap_cons,
      List.append_assoc]
    exact (List.perm_append_comm_assoc _ _ _).append_left l.calls

theorem Steps.allCalls_perm (h : Steps l l') : l'.allCalls.Perm l.allCalls := by
  induction h with
  | refl => exact List.Perm.refl _
  | tail _ hstep ih => exact hstep.allCalls_perm.trans ih

theorem calls_of_idle (h : l.Idle) : l.allCalls = l.calls := by
  have hnone : (l.pending.flatMap fun t => Trace.callsOf t.remaining) = [] := by
    rw [List.flatMap_eq_nil_iff]
    intro t ht
    rw [h t ht]
    rfl
  rw [allCalls, hnone, List.append_nil]

end Ledger

/-- The calls of an enabled rule when it runs alone. -/
def Invocation.calls (documents : List Document) (inv : Invocation) : List AnalyzerCall :=
  match documents.find? fun d => d.parser = inv.parser with
  | none => []
  | some document =>
    match inv.rule.validate inv.settings.options with
    | .accepted => (inv.rule.trace ⟨document, inv.settings.options⟩).calls
    | .rejected _ | .panicked _ => []

namespace Pass
variable {documents : List Document} {n : Nat} {l l' : Ledger}

theorem calls_of_rejected {inv : Invocation} {e : RuleError}
    (hverdict : inv.rule.validate inv.settings.options = .rejected e) : inv.calls documents = [] := by
  unfold Invocation.calls
  cases documents.find? fun d => d.parser = inv.parser with
  | none => rfl
  | some document => simp only [hverdict]

/-- Calling a rule that rejects its options does not stop the pass, and nothing is left to do for it. -/
theorem call_of_rejected (documents : List Document) (n : Nat) (l : Ledger) {inv : Invocation} {e : RuleError}
    (hverdict : inv.rule.validate inv.settings.options = .rejected e) :
    ∃ l', call documents n l inv = .ok l' ∧ l'.calls = l.calls ∧ l'.pending = l.pending := by
  unfold call
  cases documents.find? fun d => d.parser = inv.parser with
  | none => exact ⟨_, rfl, rfl, rfl⟩
  | some document =>
    simp only [hverdict]
    exact ⟨_, rfl, rfl, rfl⟩

/-- Calling a rule adds its calls. -/
theorem allCalls_call {inv : Invocation} (hcall : call documents n l inv = .ok l') :
    l'.allCalls.Perm (l.allCalls ++ inv.calls documents) := by
  unfold call at hcall
  unfold Invocation.calls
  cases hfind : documents.find? fun d => d.parser = inv.parser with
  | none =>
    simp only [hfind, Except.ok.injEq] at hcall
    obtain rfl := hcall
    rw [List.append_nil]
    exact List.Perm.refl l.allCalls
  | some document =>
    cases hverdict : inv.rule.validate inv.settings.options with
    | panicked m => simp [hfind, hverdict] at hcall
    | rejected e =>
      simp only [hfind, hverdict, Except.ok.injEq] at hcall
      obtain rfl := hcall
      simp only [List.append_nil]
      exact List.Perm.refl l.allCalls
    | accepted =>
      simp only [hfind, hverdict] at hcall
      unfold Rule.trace
      cases hfunction : inv.rule.function with
      | sync run =>
        simp only [hfunction, Except.ok.injEq] at hcall
        obtain rfl := hcall
        exact Ledger.allCalls_actAll _ _ _
      | async start =>
        simp only [hfunction] at hcall ⊢
        cases hstart : start ⟨document, inv.settings.options⟩ with
        | started atOnce t =>
          simp only [hstart, Except.ok.injEq] at hcall ⊢
          obtain rfl := hcall
          rw [Ledger.allCalls_suspend, Trace.calls, Trace.callsOf_append, ← List.append_assoc]
          exact (Ledger.allCalls_actAll _ _ _).append_right _
        | panicked atOnce m =>
          simp only [hstart, Except.ok.injEq] at hcall ⊢
          obtain rfl := hcall
          exact Ledger.allCalls_actAll _ _ _

theorem allCalls_foldlM {invs : List Invocation} (hcalls : invs.foldlM (call documents n) l = .ok l') :
    l'.allCalls.Perm (l.allCalls ++ invs.flatMap (Invocation.calls documents)) := by
  induction invs generalizing l with
  | nil =>
    obtain rfl := Except.ok.inj hcalls
    rw [List.flatMap_nil, List.append_nil]
  | cons inv rest ih =>
    rw [List.foldlM_cons, bind_eq_ok_iff] at hcalls
    obtain ⟨called, hcall, hcalls⟩ := hcalls
    rw [List.flatMap_cons, ← List.append_assoc]
    exact (ih hcalls).trans ((allCalls_call hcall).append_right _)

/-- Whatever the schedule is, a pass makes the calls of its rules. -/
theorem calls_perm {schedule : Ledger → List Nat} {config : Config} {rules : RuleSet} {parsers : List Parser}
    {name source : String} {record : PassRecord}
    (hrun : runWith schedule config rules parsers name source = .ok record) :
    ∃ documents,
      readAll name source (neededParsers parsers (invocations config rules.rules)) = .ok documents ∧
      record.calls.Perm ((invocations config rules.rules).flatMap (Invocation.calls documents)) := by
  simp only [runWith, bind_eq_ok_iff, mapError_eq_ok_iff] at hrun
  obtain ⟨documents, hread, called, hcalled, hrecord⟩ := hrun
  obtain rfl := Except.ok.inj hrecord
  refine ⟨documents, hread, ?_⟩
  have hdone := (called.steps_runTasks (schedule called)).allCalls_perm
  rw [Ledger.calls_of_idle (called.idle_runTasks (schedule called))] at hdone
  rw [Ledger.join_eq]
  exact hdone.trans (allCalls_foldlM hcalled)

/-- The documents that the rules of a pass see have the name that the pass is given. -/
theorem name_of_mem_readAll {name source : String} {parsers : List Parser}
    (hread : readAll name source parsers = .ok documents) {d : Document} (hd : d ∈ documents) :
    d.name = name := by
  obtain ⟨p, -, stream, -, rfl⟩ := exists_of_mem_forall₂ (readAll_eq_ok_iff.mp hread) hd
  rfl

end Pass

end DocLint
