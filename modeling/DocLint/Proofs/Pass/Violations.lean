import DocLint.Proofs.Pass.Interleaving
import DocLint.Proofs.Pass.Order

/-!
# The violations of a pass

Unless duplicates are dropped, the violations of a pass are the reports of the rules on lines of the document,
put in order by a stable sort. It does not matter how a rule ends: what it has reported before counts.
-/

namespace DocLint

set_option autoImplicit false

namespace Invocation

/-- The reports that an enabled rule makes: none if it is not called, and else those that it makes before it
ends, however it ends. -/
def reports (documents : List Document) (inv : Invocation) : List Report :=
  match documents.find? fun d => d.parser = inv.parser with
  | none => []
  | some document =>
    match inv.rule.validate inv.settings.options with
    | .accepted => (inv.rule.trace ⟨document, inv.settings.options⟩).reports
    | _ => []

/-- The violations that an enabled rule finds: its reports on one of so many lines, in order. -/
def found (documents : List Document) (lineCount : Nat) (inv : Invocation) : List Violation :=
  ((inv.reports documents).filter (Report.isWithin lineCount)).map inv.violation

theorem violations_of_share {documents : List Document} {n : Nat} {inv : Invocation} {s : Share}
    (h : inv.share documents n = .ok s) : s.violations = inv.found documents n := by
  unfold share at h
  unfold found reports
  cases hfind : documents.find? fun d => d.parser = inv.parser with
  | none =>
    simp only [hfind, Except.ok.injEq] at h
    subst h
    rfl
  | some document =>
    cases hverdict : inv.rule.validate inv.settings.options with
    | panicked m => simp [hfind, hverdict] at h
    | rejected e =>
      simp only [hfind, hverdict, Except.ok.injEq] at h
      subst h
      rfl
    | accepted =>
      simp only [hfind, hverdict, Except.ok.injEq] at h
      subst h
      rfl

end Invocation

namespace Pass

/-- Unless duplicates are dropped, the violations of a pass that comes to a result are the stable sort, by the
line and the bytes of the rule's name, of all reports on lines of the document. The reports are those of the
rules in the order of registration, and each bears the names, the description, the information and the
severity of its rule. -/
theorem violations_isStableSort (schedule : Ledger → List Nat) {config : Config} {rules : RuleSet}
    {parsers : List Parser} {name source : String} {record : PassRecord}
    (hkeep : config.deduplicate = false)
    (hrun : runWith schedule config rules parsers name source = .ok record) :
    ∃ documents,
      readAll name source (neededParsers parsers (invocations config rules.rules)) = .ok documents ∧
      IsStableSort Violation.sortKey
        ((invocations config rules.rules).flatMap
          (Invocation.found documents (physicalLines source).length))
        record.result.violations := by
  obtain ⟨documents, shared, hread, hshares, hresult⟩ := (alone_eq_ok_iff ..).mp (alone_of_runWith hrun)
  refine ⟨documents, hread, ?_⟩
  have hviolations : shared.flatMap Share.violations =
      (invocations config rules.rules).flatMap (Invocation.found documents (physicalLines source).length) := by
    rw [List.flatMap_def, List.flatMap_def,
      map_of_shares (fun _ _ => Invocation.violations_of_share) hshares]
  have hsort := isStableSort_arrange config (shared.flatMap Share.violations)
  rw [hkeep, if_neg Bool.false_ne_true, hviolations] at hsort
  rw [← hresult, assemble, hviolations]
  exact hsort

/-- A rule that reports the second line and one that there is not, and breaks off. -/
def panickingRule : Rule where
  descriptor := ⟨["panicking"], "Reports and breaks off", ["broken"], none, .text, false⟩
  validate _ := .accepted
  function := .sync fun _ => ⟨[.report ⟨2, none, none⟩, .report ⟨9, none, none⟩], .panicked none⟩
  valid := by decide +kernel
  fits := rfl

/-- A rule that reports the second line when it is called and the first one after a pause, and fails. -/
def failingRule : Rule where
  descriptor := ⟨["failing"], "Reports and fails", ["broken"], none, .text, true⟩
  validate _ := .accepted
  function := .async fun _ =>
    .started [.report ⟨2, none, none⟩] ⟨[.pause, .report ⟨1, none, none⟩], .failed (.execution "")⟩
  valid := by decide +kernel
  fits := rfl

def brokenRules : RuleSet :=
  ⟨[panickingRule, failingRule], by decide +kernel⟩

theorem exists_runWith_brokenRules : ∃ record,
    runWith Ledger.roundRobin .standard brokenRules Parser.builtin "a.txt" "x\ny" = .ok record := by
  have hends : (runWith Ledger.roundRobin .standard brokenRules Parser.builtin "a.txt" "x\ny").isOk := by
    decide +kernel
  cases hrun : runWith Ledger.roundRobin .standard brokenRules Parser.builtin "a.txt" "x\ny" with
  | error stop => simp [hrun, Except.isOk, Except.toBool] at hends
  | ok record => exact ⟨record, rfl⟩

theorem violations_of_brokenRules :
    ∃ record, Config.standard.deduplicate = false ∧
      runWith Ledger.roundRobin .standard brokenRules Parser.builtin "a.txt" "x\ny" = .ok record ∧
      IsStableSort Violation.sortKey
        [Invocation.violation ⟨panickingRule, .standard⟩ ⟨2, none, none⟩,
          Invocation.violation ⟨failingRule, .standard⟩ ⟨2, none, none⟩,
          Invocation.violation ⟨failingRule, .standard⟩ ⟨1, none, none⟩]
        record.result.violations := by
  have hread : readAll "a.txt" "x\ny"
      (neededParsers Parser.builtin (invocations .standard brokenRules.rules)) =
        .ok [.ofSource "a.txt" "x\ny" ⟨.text, PlainText.tokens "x\ny"⟩] := by rfl
  obtain ⟨record, hrun⟩ := exists_runWith_brokenRules
  obtain ⟨documents, hdocuments, hsort⟩ := violations_isStableSort Ledger.roundRobin rfl hrun
  rw [hread] at hdocuments
  obtain rfl := Except.ok.inj hdocuments
  exact ⟨record, rfl, hrun, hsort⟩

end Pass

end DocLint
