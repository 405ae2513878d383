import DocLint.Proofs.Pass.Steps

/-!
# Interleavings

Every run of all tasks to their ends comes to the same result: that of the rules called one by one, each when
the one before it has ended.
-/

namespace DocLint

set_option autoImplicit false

namespace Pass

/-- Calls an enabled rule and lets it act to its end. -/
def callToEnd (documents : List Document) (lineCount : Nat) (l : Ledger) (inv : Invocation) :
    Except PassStop Ledger := do
  let called ← call documents lineCount l inv
  return called.complete.join

/-- Lints a document with rules that are called one by one, each when the one before it has ended. -/
def oneByOne (config : Config) (rules : RuleSet) (parsers : List Parser) (name source : String) :
    Except PassStop LintResult := do
  let invs := invocations config rules.rules
  let documents ← (readAll name source (neededParsers parsers invs)).mapError .error
  let ended ← invs.foldlM (callToEnd documents (lineBound documents source)) .empty
  return conclude config name invs ended

/-- A pass may come to a result: there is an order of the tasks' actions in which it does. -/
inductive MayEnd (config : Config) (rules : RuleSet) (parsers : List Parser) (name source : String) :
    LintResult → Prop where
  | intro {documents : List Document} {called ended : Ledger}
      (hread : readAll name source (neededParsers parsers (invocations config rules.rules)) = .ok documents)
      (hcalled : callAll documents (lineBound documents source) (invocations config rules.rules) = .ok called)
      (hsteps : called.Steps ended) (hidle : ended.Idle) :
      MayEnd config rules parsers name source
        (conclude config name (invocations config rules.rules) ended.join)

/-- When every rule has been called and has ended, in whatever order, the result is made up of the shares. -/
theorem conclude_of_steps {documents : List Document} {n : Nat} {invs : List Invocation}
    {found : List Share} {called ended : Ledger} (config : Config) (name : String)
    (hfound : shares documents n invs = .ok found) (hcalled : called.Holds found)
    (hsteps : called.Steps ended) (hidle : ended.Idle) :
    conclude config name invs ended.join = assemble config name found :=
  conclude_eq_assemble config name (hcalled.steps hsteps) hidle
    (map_of_shares (fun _ _ => Invocation.rule_of_share) hfound)

theorem sameOutcome_callToEnd (documents : List Document) (n : Nat) {l : Ledger} {held : List Share}
    (hl : l.Holds held ∧ l.pending = []) (inv : Invocation) :
    SameOutcome (fun l' s => l'.Holds (held ++ [s]) ∧ l'.pending = [])
      (callToEnd documents n l inv) (inv.share documents n) := by
  have hcall := sameOutcome_call documents n hl.1.wellPlaced inv
  unfold callToEnd
  generalize call documents n l inv = called at hcall ⊢
  generalize inv.share documents n = share at hcall ⊢
  cases hcall with
  | error stop => exact .error stop
  | @ok l' s hgain =>
    refine .ok ⟨?_, by rw [Ledger.join_eq]⟩
    have hcomplete := (hl.1.gain hgain).steps l'.steps_complete
    exact hcomplete.join l'.idle_complete

section Result
variable (config : Config) (rules : RuleSet) (parsers : List Parser) (name source : String)

/-- Rules that are called one by one come to what they come to alone. -/
theorem oneByOne_eq_alone :
    oneByOne config rules parsers name source = alone config rules parsers name source := by
  unfold oneByOne alone
  cases hread : readAll name source (neededParsers parsers (invocations config rules.rules)) with
  | error e => simp only [hread, Except.mapError, bind, Except.bind]
  | ok documents =>
    have hrun := sameOutcome_foldlM (P := fun l held => l.Holds held ∧ l.pending = []) documents
      (physicalLines source).length (fun _ _ inv hl => sameOutcome_callToEnd documents _ hl inv)
      ⟨Ledger.holds_empty, rfl⟩ (invocations config rules.rules)
    simp only [hread, Except.mapError, bind, Except.bind, lineBound_eq hread]
    generalize (invocations config rules.rules).foldlM
      (callToEnd documents (physicalLines source).length) Ledger.empty = run at hrun ⊢
    generalize hfound : shares _ _ _ = outcome at hrun ⊢
    cases hrun with
    | error stop => rfl
    | @ok ended found hl =>
      have hidle : ended.Idle := by simp [Ledger.Idle, hl.2]
      have hconclude := conclude_of_steps config name hfound hl.1 .refl hidle
      rw [Ledger.join_of_pending_nil hl.2] at hconclude
      exact congrArg Except.ok hconclude

/-- A schedule decides what is done when, and nothing of the result. -/
theorem runWith_result (schedule : Ledger → List Nat) :
    (runWith schedule config rules parsers name source).map PassRecord.result =
      alone config rules parsers name source := by
  unfold runWith alone
  cases hread : readAll name source (neededParsers parsers (invocations config rules.rules)) with
  | error e => simp only [hread, Except.mapError, bind, Except.bind, Except.map]
  | ok documents =>
    have hrun := sameOutcome_callAll documents (physicalLines source).length
      (invocations config rules.rules)
    simp only [hread, Except.mapError, bind, Except.bind, lineBound_eq hread]
    generalize callAll _ _ _ = run at hrun ⊢
    generalize hfound : shares _ _ _ = outcome at hrun ⊢
    cases hrun with
    | error stop => rfl
    | @ok called found hl =>
      exact congrArg Except.ok (conclude_of_steps config name hfound hl
        (called.steps_runTasks _) (called.idle_runTasks _))

/-- The results that some order of the tasks' actions leads to are the result of the rules alone. -/
theorem mayEnd_iff_alone (result : LintResult) :
    MayEnd config rules parsers name source result ↔
      alone config rules parsers name source = .ok result := by
  rw [alone_eq_ok_iff]
  constructor
  · rintro @⟨documents, called, ended, hread, hcalled, hsteps, hidle⟩
    rw [lineBound_eq hread] at hcalled
    have hrun := sameOutcome_callAll documents (physicalLines source).length
      (invocations config rules.rules)
    rw [hcalled] at hrun
    generalize hfound : shares _ _ _ = outcome at hrun
    cases hrun with
    | @ok _ found hl =>
      exact ⟨documents, found, hread, hfound, (conclude_of_steps config name hfound hl hsteps hidle).symm⟩
  · rintro ⟨documents, found, hread, hfound, rfl⟩
    have hrun := sameOutcome_callAll documents (physicalLines source).length
      (invocations config rules.rules)
    rw [hfound] at hrun
    generalize hcalled : callAll _ _ _ = outcome at hrun
    cases hrun with
    | @ok called _ hl =>
      rw [← lineBound_eq hread] at hcalled
      rw [← conclude_of_steps config name hfound hl called.steps_complete called.idle_complete]
      exact .intro hread hcalled called.steps_complete called.idle_complete

/-- No interleaving shows: whatever the schedule is, and in whatever order the rules that wait take their
actions, violations, failures and the names of the rules that ran are those of a pass in which every rule
runs to its end before the next one is called. -/
theorem result_of_any_interleaving :
    (∀ schedule, (runWith schedule config rules parsers name source).map PassRecord.result =
      oneByOne config rules parsers name source) ∧
    ∀ result, MayEnd config rules parsers name source result ↔
      oneByOne config rules parsers name source = .ok result := by
  rw [oneByOne_eq_alone]
  refine ⟨?_, ?_⟩
  · intro schedule
    exact runWith_result config rules parsers name source schedule
  · intro result
    exact mayEnd_iff_alone config rules parsers name source result

end Result

section Alone
variable {config : Config} {rules : RuleSet} {parsers : List Parser} {name source : String}

theorem alone_of_runWith {schedule : Ledger → List Nat} {record : PassRecord}
    (hrun : runWith schedule config rules parsers name source = .ok record) :
    alone config rules parsers name source = .ok record.result := by
  rw [← runWith_result config rules parsers name source schedule, hrun]
  rfl

theorem runWith_of_alone (schedule : Ledger → List Nat) {result : LintResult}
    (halone : alone config rules parsers name source = .ok result) :
    ∃ record, runWith schedule config rules parsers name source = .ok record ∧ record.result = result := by
  rw [← runWith_result config rules parsers name source schedule] at halone
  cases hrun : runWith schedule config rules parsers name source with
  | error stop => simp [hrun, Except.map] at halone
  | ok record =>
    rw [hrun] at halone
    exact ⟨record, rfl, Except.ok.inj halone⟩

theorem runWith_eq_error_iff (schedule : Ledger → List Nat) {stop : PassStop} :
    runWith schedule config rules parsers name source = .error stop ↔
      alone config rules parsers name source = .error stop := by
  rw [← runWith_result config rules parsers name source schedule]
  cases runWith schedule config rules parsers name source with
  | error stop' => simp [Except.map]
  | ok record => simp [Except.map]

end Alone

end Pass

end DocLint
