import DocLint.Proofs.Rules.Window
import DocLint.Proofs.StableSort
import DocLint.Rules.LintJavascript
import Mathlib.Data.Nat.Basic

/-!
# Verifying fences in any order

Up to four fences are verified at a time, and they may end in any order. The reports are nonetheless those of
the fences in the order of the document: what was found is sorted by the places of the fences, and every fence
has one outcome.
-/

namespace DocLint.LintJavascript

set_option autoImplicit false

/-- What the first values of a list become, each with its place. -/
theorem filterMap_getElem?_range {α β : Type} (f : Nat → α → β) (xs : List α) {k : Nat}
    (hk : k ≤ xs.length) :
    ((List.range k).filterMap fun j => xs[j]?.map (f j)) =
      (xs.take k).zipIdx.map fun (x, j) => f j x := by
  induction k with
  | zero => rfl
  | succ k ih =>
    have hlt : k < xs.length := hk
    have hlength : (xs.take k).length = k := List.length_take_of_le (Nat.le_of_lt hlt)
    rw [List.range_succ, List.filterMap_append, ih (Nat.le_of_lt hlt), List.take_succ_eq_append_getElem hlt,
      List.zipIdx_append, List.map_append, hlength]
    simp [List.getElem?_eq_getElem hlt]

section Actions
variable (fences : List Token) (config : AnalyzerConfig) (events : List Window.Event)

/-- The calls that are made while fences are verified are those for the fences started, in order. -/
theorem callsOf_windowActions :
    Trace.callsOf (windowActions fences config events) =
      (Window.startedIn events).filterMap fun job =>
        fences[job]?.map fun fence => .verify fence.content config := by
  induction events with
  | nil => rfl
  | cons e rest ih =>
    cases e with
    | started job => cases hfence : fences[job]? <;> simp [windowActions, Window.startedIn, hfence, ih]
    | ended job => simpa [windowActions, Window.startedIn] using ih

theorem reportsOf_windowActions : Trace.reportsOf (windowActions fences config events) = [] := by
  induction events with
  | nil => rfl
  | cons e rest ih =>
    cases e with
    | started job => cases hfence : fences[job]? <;> simp [windowActions, hfence, ih]
    | ended job => simpa [windowActions] using ih

end Actions

/-- Whatever the order is in which the fences have ended, their reports are those in the order of the
document. -/
theorem collectReports_eq (check : Token → List Report) {fences : List Token} {ended : List Nat}
    (hended : ended.Perm (List.range fences.length)) :
    collectReports check fences ended = fences.flatMap check := by
  let outcome (job : Nat) : Option (Nat × List Report) :=
    fences[job]?.map fun fence => (job, check fence)
  have hplace (job : Nat) (a : Nat × List Report) (ha : outcome job = some a) : a.1 = job := by
    obtain ⟨fence, -, rfl⟩ := Option.map_eq_some_iff.mp ha
    rfl
  have hinOrder : ((List.range fences.length).filterMap outcome).Pairwise fun a b => a.1 < b.1 := by
    rw [List.pairwise_filterMap]
    refine List.pairwise_lt_range.imp ?_
    intro i j hij a ha b hb
    rwa [hplace i a ha, hplace j b hb]
  -- there is one outcome for each place, so sorting them finds the one order that there is
  have hsame := mergeSort_eq_of_perm Prod.fst (fun a b => decide_eq_true_iff) hinOrder
    (hended.filterMap outcome)
  calc collectReports check fences ended
      = ((List.range fences.length).filterMap outcome).flatMap (·.2) := by rw [collectReports, hsame]
    _ = fences.zipIdx.flatMap fun p => check p.1 := by
        rw [filterMap_getElem?_range _ _ (Nat.le_refl _), List.take_length, List.flatMap_map]
    _ = (fences.zipIdx.map Prod.fst).flatMap check := by rw [List.flatMap_map]
    _ = fences.flatMap check := by rw [List.zipIdx_map_fst]

/-- The reports of the rule when it verifies the fences one after the other. -/
def reportsInSequence (analyzer : Analyzer) (input : RuleInput) : List Report :=
  match Options.ofJson input.options with
  | .error _ => []
  | .ok options =>
    match analyzer.resolve input.document.name with
    | .error _ => []
    | .ok config =>
      (fences options input.document).flatMap
        (checkFence analyzer input.document (options.filter.apply config))

section Verification
variable {jobs : Nat} {events : List Window.Event} {w : Window}

/-- The fences started are the first ones of the document: their calls have been made, in order. -/
theorem calls_of_stands {fences : List Token} (config : AnalyzerConfig)
    (h : Window.Stands maxInFlight fences.length events w) :
    ∃ k ≤ fences.length, Window.startedIn events = List.range k ∧
      Trace.callsOf (windowActions fences config events) =
        (fences.take k).map fun fence => .verify fence.content config := by
  obtain ⟨k, hle, hstarted⟩ : ∃ k ≤ fences.length, Window.startedIn events = List.range k := by
    have hle := h.startedIn_isPrefix.length_le
    have htake := List.prefix_iff_eq_take.mp h.startedIn_isPrefix
    rw [List.length_range] at hle
    rw [List.take_range, Nat.min_eq_left hle] at htake
    exact ⟨_, hle, htake⟩
  refine ⟨k, hle, hstarted, ?_⟩
  rw [callsOf_windowActions, hstarted, filterMap_getElem?_range _ _ hle]
  calc ((fences.take k).zipIdx.map fun p => AnalyzerCall.verify p.1.content config)
      = ((fences.take k).zipIdx.map Prod.fst).map fun fence => .verify fence.content config := by
        rw [List.map_map]
        rfl
    _ = (fences.take k).map fun fence => .verify fence.content config := by rw [List.zipIdx_map_fst]

theorem run_events (order : List Nat) (jobs : Nat) :
    ∃ w, Window.Run maxInFlight (.new jobs) (Window.events maxInFlight order jobs) w ∧ w.HasEnded ∧
      w.ended = Window.endOrder maxInFlight order jobs := by
  refine ⟨_, Window.run_run maxInFlight order jobs (.new jobs), ?_, rfl⟩
  apply Window.hasEnded_run (by decide)
  simp [Window.left, Window.new]

theorem reports_of_stands {fences : List Token} (config : AnalyzerConfig) (check : Token → List Report)
    (h : Window.Stands maxInFlight fences.length events w) (hend : w.HasEnded) :
    Trace.reportsOf (windowActions fences config events ++
      (collectReports check fences w.ended).map .report) = fences.flatMap check := by
  rw [Trace.reportsOf_append, reportsOf_windowActions, Trace.reportsOf_map_report, List.nil_append,
    collectReports_eq check (h.ended_perm hend)]

theorem reports_verifyAll (analyzer : Analyzer) (order : List Nat) (document : Document)
    (config : AnalyzerConfig) (fences : List Token) :
    Trace.reportsOf (verifyAll analyzer order document config fences) =
      fences.flatMap (checkFence analyzer document config) := by
  obtain ⟨w, hrun, hend, hended⟩ := run_events order fences.length
  have hreports := reports_of_stands config (checkFence analyzer document config) hrun.stands hend
  rwa [hended] at hreports

theorem reports_runWith (order : List Nat) (analyzer : Analyzer) (input : RuleInput) :
    (runWith order analyzer input).reports = reportsInSequence analyzer input := by
  unfold runWith reportsInSequence
  cases Options.ofJson input.options with
  | error m => rfl
  | ok options =>
    simp only []
    cases hfound : fences options input.document with
    | nil => cases analyzer.resolve input.document.name <;> rfl
    | cons fence rest =>
      cases analyzer.resolve input.document.name with
      | error e => rfl
      | ok config =>
        simp only [Trace.reports, Trace.reportsOf_append, reports_verifyAll]
        rfl

/-- At every time while fences are verified at most four are in flight, those started are the first ones of
the document, in its order, and none is started twice. When all have ended, in whatever order, the reports are
those of the fences one after the other. Whatever the rule does with an order that it is given is part of such
a run to the end, so what it reports does not depend on the order. -/
theorem verification_in_any_order (analyzer : Analyzer) (input : RuleInput) :
    (∀ config fences events w, Window.Run maxInFlight (.new fences.length) events w →
      w.inFlight.length ≤ maxInFlight ∧
      (w.inFlight ++ w.ended).Perm (Window.startedIn events) ∧
      (Window.startedIn events).Nodup ∧
      (∃ k ≤ fences.length, Window.startedIn events = List.range k ∧
        Trace.callsOf (windowActions fences config events) =
          (fences.take k).map fun fence => .verify fence.content config) ∧
      (w.HasEnded →
        Trace.reportsOf (windowActions fences config events ++
          (collectReports (checkFence analyzer input.document config) fences w.ended).map .report) =
        fences.flatMap (checkFence analyzer input.document config))) ∧
    ∀ order,
      (∀ jobs past, past <+: Window.events maxInFlight order jobs →
        ∃ w, Window.Run maxInFlight (.new jobs) past w) ∧
      (∀ jobs, ∃ w, Window.Run maxInFlight (.new jobs) (Window.events maxInFlight order jobs) w ∧
        w.HasEnded ∧ w.ended = Window.endOrder maxInFlight order jobs) ∧
      (runWith order analyzer input).reports = reportsInSequence analyzer input := by
  refine ⟨?_, ?_⟩
  · intro config fences events w hrun
    have hstands := hrun.stands
    refine ⟨hstands.bounded, hstands.accounted, hstands.startedIn_nodup, calls_of_stands config hstands, ?_⟩
    intro hend
    exact reports_of_stands config _ hstands hend
  · intro order
    refine ⟨?_, run_events order, reports_runWith order analyzer input⟩
    intro jobs past hpast
    obtain ⟨w, hrun, -⟩ := run_events order jobs
    exact hrun.of_isPrefix hpast

end Verification

end DocLint.LintJavascript
