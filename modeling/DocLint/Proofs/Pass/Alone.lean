import DocLint.Proofs.Pass.Reading

/-!
# Rules that run alone

What a pass comes to when every enabled rule runs to its end before the next one is called. Nothing waits
and nothing has a place: every rule has its share in the result, and the shares are put together in the
order in which the rules are registered.
-/

namespace DocLint

set_option autoImplicit false

/-- What a rule does when it runs to its end alone. -/
def Rule.trace (r : Rule) (input : RuleInput) : Trace :=
  match r.function with
  | .sync run => run input
  | .async start =>
    match start input with
    | .started atOnce t => ⟨atOnce ++ t.actions, t.outcome⟩
    | .panicked atOnce m => ⟨atOnce, .panicked m⟩

/-- Whether a report is on one of so many lines. -/
def Report.isWithin (lineCount : Nat) (r : Report) : Bool :=
  1 ≤ r.line && r.line ≤ lineCount

/-- What an enabled rule adds to the result of a pass. -/
structure Share where
  /-- The primary name of the rule. -/
  rule : String
  violations : List Violation
  /-- Why the rule was not called or did not end well, then its reports on other lines. -/
  errors : List RuleError
  called : Bool

def Share.failures (s : Share) : List RuleFailure :=
  s.errors.map fun e => ⟨s.rule, e⟩

namespace Invocation

/-- The violation that a report of the rule stands for. -/
def violation (inv : Invocation) (r : Report) : Violation where
  ruleName := inv.rule.name
  ruleNames := inv.rule.descriptor.names
  description := inv.rule.descriptor.description
  information := inv.rule.descriptor.information
  line := r.line
  detail := r.detail
  context := r.context
  severity := inv.settings.severity

def refused (inv : Invocation) (e : RuleError) : Share :=
  ⟨inv.rule.name, [], [e], false⟩

/-- The share of a rule that does what a trace says. -/
def ran (lineCount : Nat) (inv : Invocation) (t : Trace) : Share where
  rule := inv.rule.name
  violations := (t.reports.filter (Report.isWithin lineCount)).map inv.violation
  errors := t.outcome.error?.toList ++
    (t.reports.filter (!Report.isWithin lineCount ·)).map fun r => .invalidLine r.line lineCount
  called := true

/-- The share of an enabled rule. -/
def share (documents : List Document) (lineCount : Nat) (inv : Invocation) : Except PassStop Share :=
  match documents.find? fun d => d.parser = inv.parser with
  | none => .ok (inv.refused (Pass.missingParser inv.parser))
  | some document =>
    match inv.rule.validate inv.settings.options with
    | .panicked m => .error (.panicked m)
    | .rejected e => .ok (inv.refused e)
    | .accepted => .ok (inv.ran lineCount (inv.rule.trace ⟨document, inv.settings.options⟩))

theorem rule_of_share {documents : List Document} {n : Nat} {inv : Invocation} {s : Share}
    (h : inv.share documents n = .ok s) : s.rule = inv.rule.name := by
  unfold share at h
  split at h
  · obtain rfl := Except.ok.inj h
    rfl
  · split at h
    · simp at h
    · obtain rfl := Except.ok.inj h
      rfl
    · obtain rfl := Except.ok.inj h
      rfl

/-- Nothing else than the check of its options, where it is made, keeps a rule from having a share. -/
theorem share_eq_error_iff {documents : List Document} {n : Nat} {inv : Invocation} {stop : PassStop} :
    inv.share documents n = .error stop ↔
      (∃ d, documents.find? (fun d => d.parser = inv.parser) = some d) ∧
        ∃ m, stop = .panicked m ∧ inv.rule.validate inv.settings.options = .panicked m := by
  unfold share
  cases documents.find? fun d => d.parser = inv.parser with
  | none => simp
  | some document => cases inv.rule.validate inv.settings.options <;> simp [eq_comm]

end Invocation

namespace Pass

/-- The shares of some enabled rules, in order. -/
def shares (documents : List Document) (lineCount : Nat) (invs : List Invocation) :
    Except PassStop (List Share) :=
  invs.mapM (Invocation.share documents lineCount)

theorem shares_eq_ok_iff {documents : List Document} {n : Nat} {invs : List Invocation}
    {found : List Share} :
    shares documents n invs = .ok found ↔
      List.Forall₂ (fun inv s => inv.share documents n = .ok s) invs found :=
  mapM_eq_ok_iff

/-- What every share has from its rule, the shares have from the rules in order. -/
theorem map_of_shares {β : Type} {documents : List Document} {n : Nat} {invs : List Invocation}
    {found : List Share} {ofShare : Share → β} {ofRule : Invocation → β}
    (hsame : ∀ inv s, inv.share documents n = .ok s → ofShare s = ofRule inv)
    (h : shares documents n invs = .ok found) : found.map ofShare = invs.map ofRule := by
  rw [shares_eq_ok_iff] at h
  induction h with
  | nil => rfl
  | cons hs _ ih => rw [List.map_cons, List.map_cons, hsame _ _ hs, ih]

/-- The result that some shares make up. -/
def assemble (config : Config) (name : String) (shares : List Share) : LintResult where
  name
  violations := arrange config (shares.flatMap Share.violations)
  failures := shares.flatMap Share.failures
  timings := if config.timings then (shares.filter Share.called).map Share.rule else []

/-- Lints a document with rules that run one after the other. -/
def alone (config : Config) (rules : RuleSet) (parsers : List Parser) (name source : String) :
    Except PassStop LintResult := do
  let invs := invocations config rules.rules
  let documents ← (readAll name source (neededParsers parsers invs)).mapError .error
  let shares ← shares documents (physicalLines source).length invs
  return assemble config name shares

/-- When rules that run one after the other come to a result, and to which one. -/
theorem alone_eq_ok_iff (config : Config) (rules : RuleSet) (parsers : List Parser)
    (name source : String) (result : LintResult) :
    alone config rules parsers name source = .ok result ↔
      ∃ documents found,
        readAll name source (neededParsers parsers (invocations config rules.rules)) = .ok documents ∧
        shares documents (physicalLines source).length (invocations config rules.rules) = .ok found ∧
        assemble config name found = result := by
  simp only [alone, bind_eq_ok_iff, mapError_eq_ok_iff, pure, Except.pure, Except.ok.injEq, exists_and_left]

end Pass

end DocLint
