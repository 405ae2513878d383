import DocLint.Linter
import DocLint.Proofs.Config.Severity
import DocLint.Proofs.Pass.Entries

/-!
# Settings do not interfere

A severity is stamped on violations and shows nowhere else: no rule is told, and violations are neither merged nor
put in order by it. What is recorded of the rules that ran changes no other part of the result, and once a linter
has been made, the patterns of files and the directory of the configuration do not matter to a text.
-/

namespace DocLint

set_option autoImplicit false

variable (severityOf : String → Severity)

/-- A violation with the severity of its rule under another configuration. -/
def Violation.withSeverity (v : Violation) : Violation :=
  { v with severity := severityOf v.ruleName }

def Share.withSeverity (s : Share) : Share :=
  { s with violations := s.violations.map (Violation.withSeverity severityOf) }

def LintResult.withSeverity (r : LintResult) : LintResult :=
  { r with violations := r.violations.map (Violation.withSeverity severityOf) }

/-- A result without what is recorded of the rules that ran. -/
def PassRecord.untimed (record : PassRecord) : PassRecord :=
  { record with result := { record.result with timings := [] } }

namespace Invocation

def withSeverity (inv : Invocation) : Invocation :=
  { inv with settings := { inv.settings with severity := severityOf inv.rule.name } }

theorem share_withSeverity (documents : List Document) (n : Nat) (inv : Invocation) :
    (inv.withSeverity severityOf).share documents n =
      (inv.share documents n).map (Share.withSeverity severityOf) := by
  have hran (t : Trace) : (inv.withSeverity severityOf).ran n t = (inv.ran n t).withSeverity severityOf := by
    rw [Share.withSeverity, ran, ran, List.map_map]
    rfl
  have hparser : (inv.withSeverity severityOf).parser = inv.parser := rfl
  unfold share
  rw [hparser]
  cases documents.find? fun d => d.parser = inv.parser with
  | none => rfl
  | some document =>
    cases hverdict : inv.rule.validate inv.settings.options with
    | panicked m => simp only [withSeverity, hverdict, Except.map]
    | rejected e =>
      simp only [withSeverity, hverdict, Except.map]
      rfl
    | accepted =>
      simp only [withSeverity, hverdict, Except.map]
      exact congrArg Except.ok (hran _)

end Invocation

namespace Pass

theorem shares_withSeverity (documents : List Document) (n : Nat) (invs : List Invocation) :
    shares documents n (invs.map (Invocation.withSeverity severityOf)) =
      (shares documents n invs).map (List.map (Share.withSeverity severityOf)) := by
  unfold shares
  induction invs with
  | nil => rfl
  | cons inv rest ih =>
    rw [List.map_cons, List.mapM_cons, List.mapM_cons, ih, Invocation.share_withSeverity]
    cases inv.share documents n with
    | error stop => rfl
    | ok s => cases rest.mapM (Invocation.share documents n) <;> rfl

/-- Duplicates are told by what a change of the severity leaves as it is. -/
theorem dedup_withSeverity (seen : List Violation.Key) (all : List Violation) :
    dedup seen (all.map (Violation.withSeverity severityOf)) =
      (dedup seen all).map (Violation.withSeverity severityOf) := by
  induction all generalizing seen with
  | nil => rfl
  | cons v rest ih =>
    have hkey : (v.withSeverity severityOf).key = v.key := rfl
    rw [List.map_cons, dedup, dedup, hkey]
    split
    · exact ih seen
    · rw [List.map_cons, ih]

theorem arrange_withSeverity (config : Config) (all : List Violation) :
    arrange config (all.map (Violation.withSeverity severityOf)) =
      (arrange config all).map (Violation.withSeverity severityOf) := by
  have hbase : (if config.deduplicate then dedup [] (all.map (Violation.withSeverity severityOf))
      else all.map (Violation.withSeverity severityOf)) =
        (if config.deduplicate then dedup [] all else all).map (Violation.withSeverity severityOf) := by
    split
    · exact dedup_withSeverity severityOf [] all
    · rfl
  rw [arrange, arrange, hbase]
  symm
  apply List.map_mergeSort
  intro v _ w _
  rfl

theorem assemble_withSeverity (config : Config) (name : String) (found : List Share) :
    assemble config name (found.map (Share.withSeverity severityOf)) =
      (assemble config name found).withSeverity severityOf := by
  have hviolations : (found.map (Share.withSeverity severityOf)).flatMap Share.violations =
      (found.flatMap Share.violations).map (Violation.withSeverity severityOf) := by
    rw [List.flatMap_map, List.map_flatMap]
    rfl
  have hfailures : (found.map (Share.withSeverity severityOf)).flatMap Share.failures =
      found.flatMap Share.failures := by
    rw [List.flatMap_map]
    rfl
  have htimings : ((found.map (Share.withSeverity severityOf)).filter Share.called).map Share.rule =
      (found.filter Share.called).map Share.rule := by
    rw [List.filter_map, List.map_map]
    rfl
  rw [LintResult.withSeverity, assemble, assemble, hviolations, hfailures, htimings, arrange_withSeverity]

theorem neededParsers_withSeverity (parsers : List Parser) (invs : List Invocation) :
    neededParsers parsers (invs.map (Invocation.withSeverity severityOf)) = neededParsers parsers invs := by
  unfold neededParsers
  simp only [List.any_map]
  rfl

/-- Configurations under which the same rules run with the same options lead to the same result, but for the
severities. -/
theorem alone_withSeverity {config config' : Config} {rules : RuleSet}
    (hinvs : invocations config' rules.rules =
      (invocations config rules.rules).map (Invocation.withSeverity severityOf))
    (hdeduplicate : config'.deduplicate = config.deduplicate) (htimings : config'.timings = config.timings)
    (parsers : List Parser) (name source : String) :
    alone config' rules parsers name source =
      (alone config rules parsers name source).map (LintResult.withSeverity severityOf) := by
  have hassemble (found : List Share) : assemble config' name found = assemble config name found := by
    rw [assemble, assemble, arrange, arrange, hdeduplicate, htimings]
  simp only [alone, hinvs, neededParsers_withSeverity, shares_withSeverity, hassemble]
  cases readAll name source (neededParsers parsers (invocations config rules.rules)) with
  | error e => rfl
  | ok documents =>
    simp only [Except.mapError, bind, Except.bind]
    cases shares documents (physicalLines source).length (invocations config rules.rules) with
    | error stop => rfl
    | ok found => exact congrArg Except.ok (assemble_withSeverity severityOf config name found)

/-- The severity under a configuration of the rule with a name. -/
def severityUnder (config : Config) (rules : List Rule) (name : String) : Severity :=
  (((rules.find? fun r => r.name = name).bind fun r => config.resolve r.descriptor).map Settings.severity).getD .error

theorem find?_name {rules : RuleSet} {r : Rule} (hr : r ∈ rules.rules) :
    (rules.rules.find? fun s => s.name = r.name) = some r := by
  obtain ⟨s, hs⟩ : ∃ s, (rules.rules.find? fun s => s.name = r.name) = some s := by
    rw [← Option.ne_none_iff_exists', Ne, List.find?_eq_none]
    intro hnone
    exact hnone r hr (decide_eq_true rfl)
  have hname : s.name = r.name := by simpa using List.find?_some hs
  rw [hs, eq_of_name_eq (List.mem_of_find?_eq_some hs) hr hname]

theorem severityUnder_eq {config : Config} {rules : RuleSet} {r : Rule} (hr : r ∈ rules.rules) {settings : Settings}
    (hsettings : config.resolve r.descriptor = some settings) :
    severityUnder config rules.rules r.name = settings.severity := by
  rw [severityUnder, find?_name hr, Option.bind_some, hsettings]
  rfl

/-- Where two configurations agree about the options of rules, the rules that run differ in their severities. -/
theorem invocations_withSeverity {config config' : Config} {rules : RuleSet}
    (h : ∀ r ∈ rules.rules, (config.resolve r.descriptor).map Settings.options =
      (config'.resolve r.descriptor).map Settings.options) :
    invocations config' rules.rules =
      (invocations config rules.rules).map
        (Invocation.withSeverity (severityUnder config' rules.rules)) := by
  unfold invocations
  rw [List.map_filterMap]
  apply List.filterMap_congr
  intro r hr
  have hr' := h r hr
  cases hsettings' : config'.resolve r.descriptor with
  | none =>
    rw [hsettings', Option.map_none, Option.map_eq_none_iff] at hr'
    rw [hr']
    rfl
  | some settings' =>
    rw [hsettings', Option.map_some, Option.map_eq_some_iff] at hr'
    obtain ⟨settings, hsettings, hsame⟩ := hr'
    have hstamped : (⟨r, settings⟩ : Invocation).withSeverity (severityUnder config' rules.rules) =
        ⟨r, settings'⟩ := by
      rw [Invocation.withSeverity, severityUnder_eq hr hsettings']
      simp only [hsame]
    rw [hsettings, Option.map_some, Option.map_some, Option.map_some, hstamped]

section Passes
variable {config : Config} {rules : RuleSet} {parsers : List Parser} {name source : String}

/-- A violation has its name and its severity from an enabled rule. -/
theorem exists_invocation_of_violation {schedule : Ledger → List Nat} {record : PassRecord}
    (hrun : runWith schedule config rules parsers name source = .ok record) {v : Violation}
    (hv : v ∈ record.result.violations) :
    ∃ inv ∈ invocations config rules.rules, v.ruleName = inv.rule.name ∧ v.severity = inv.settings.severity := by
  obtain ⟨documents, found, -, hfound, hresult⟩ := (alone_eq_ok_iff ..).mp (alone_of_runWith hrun)
  rw [← hresult] at hv
  obtain ⟨s, hs, hvs⟩ := List.mem_flatMap.mp (mem_arrange hv)
  obtain ⟨inv, hinv, hshare⟩ := exists_of_mem_forall₂ (shares_eq_ok_iff.mp hfound) hs
  rw [Invocation.violations_of_share hshare] at hvs
  obtain ⟨r, -, rfl⟩ := List.mem_map.mp hvs
  exact ⟨inv, hinv, rfl, rfl⟩

/-- Whether it is recorded which rules run has no effect on anything else. -/
theorem untimed_runWith (schedule : Ledger → List Nat) (config : Config) (timings : Bool) (rules : RuleSet)
    (parsers : List Parser) (name source : String) :
    (runWith schedule { config with timings } rules parsers name source).map PassRecord.untimed =
      (runWith schedule config rules parsers name source).map PassRecord.untimed := by
  have hinvs : invocations { config with timings } rules.rules = invocations config rules.rules := rfl
  simp only [runWith, hinvs]
  cases readAll name source (neededParsers parsers (invocations config rules.rules)) with
  | error e => rfl
  | ok documents =>
    simp only [Except.mapError, bind, Except.bind]
    cases callAll documents (lineBound documents source) (invocations config rules.rules) <;> rfl

variable {before after : List (String × RuleOption)} {k : String} {o : RuleOption} (o' : RuleOption)

/-- The severity of a rule that a replaced entry does not concern is what it was. -/
theorem concerns_of_severityUnder_ne (hoptions : config.options = before ++ (k, o) :: after)
    {inv : Invocation} (hinv : inv ∈ invocations config rules.rules)
    (hne : severityUnder { config with options := before ++ (k, o') :: after } rules.rules inv.rule.name ≠
      inv.settings.severity) : Config.Concerns inv.rule.descriptor k := by
  obtain ⟨hr, hsettings⟩ := mem_invocations.mp hinv
  by_contra hk
  rw [← Config.resolve_eq_of_not_concerns o' hoptions hk] at hsettings
  exact hne (severityUnder_eq hr hsettings)

/-- Three kinds of settings show where they should and nowhere else. Recording which rules ran changes what is
recorded of that. When an entry that enables rules, with or without a severity, is replaced by another one of its
kind, the same rules run with the same options and come to the same failures and violations but for the severities,
and no severity changes but of rules that have the key of the entry among their names and tags. The patterns of files
and the directory of the configuration do not matter to a linter that has been made, when it lints a text. -/
theorem settings_do_not_interfere (config : Config) (rules : RuleSet) (parsers : List Parser)
    (name source : String) :
    (∀ schedule timings,
      (runWith schedule { config with timings } rules parsers name source).map PassRecord.untimed =
        (runWith schedule config rules parsers name source).map PassRecord.untimed) ∧
    (∀ before k o o' after, config.options = before ++ (k, o) :: after → o.Plain → o'.Plain →
      ∃ severityOf : String → Severity,
        invocations { config with options := before ++ (k, o') :: after } rules.rules =
          (invocations config rules.rules).map (Invocation.withSeverity severityOf) ∧
        (∀ schedule schedule',
          (runWith schedule' { config with options := before ++ (k, o') :: after } rules parsers name source).map
              PassRecord.result =
            (runWith schedule config rules parsers name source).map fun record =>
              record.result.withSeverity severityOf) ∧
        (∀ inv ∈ invocations config rules.rules, severityOf inv.rule.name ≠ inv.settings.severity →
          Config.Concerns inv.rule.descriptor k) ∧
        ∀ schedule record, runWith schedule config rules parsers name source = .ok record →
          ∀ v ∈ record.result.violations, severityOf v.ruleName ≠ v.severity →
            ∃ r ∈ rules.rules, v.ruleName = r.name ∧ Config.Concerns r.descriptor k) ∧
    ∀ includes excludes baseDir linter linter', Linter.ofParsers rules config parsers = .ok linter →
      Linter.ofParsers rules { config with includes, excludes, baseDir } parsers = .ok linter' →
      linter'.lintText name source = linter.lintText name source := by
  refine ⟨?timings, ?severities, ?files⟩
  case timings =>
    intro schedule timings
    exact untimed_runWith schedule config timings rules parsers name source
  case severities =>
    intro before k o o' after hoptions ho ho'
    let replaced : Config := { config with options := before ++ (k, o') :: after }
    have hinvs : invocations replaced rules.rules = (invocations config rules.rules).map
        (Invocation.withSeverity (severityUnder replaced rules.rules)) :=
      invocations_withSeverity fun r _ => Config.options_resolve_replaced o' hoptions ho ho'
    have hconcerns (inv : Invocation) (hinv : inv ∈ invocations config rules.rules) :=
      concerns_of_severityUnder_ne o' hoptions hinv
    refine ⟨severityUnder replaced rules.rules, hinvs, ?_, hconcerns, ?_⟩
    · intro schedule schedule'
      rw [runWith_result, alone_withSeverity _ hinvs rfl rfl, ← runWith_result _ _ _ _ _ schedule]
      cases runWith schedule config rules parsers name source <;> rfl
    · intro schedule record hrun v hv hne
      obtain ⟨inv, hinv, hname, hseverity⟩ := exists_invocation_of_violation hrun hv
      rw [hname, hseverity] at hne
      exact ⟨inv.rule, (mem_invocations.mp hinv).1, hname, hconcerns inv hinv hne⟩
  case files =>
    intro includes excludes baseDir linter linter' hlinter hlinter'
    simp only [Linter.ofParsers, bind_eq_ok_iff] at hlinter hlinter'
    obtain ⟨finder, -, hmade⟩ := hlinter
    obtain ⟨finder', -, hmade'⟩ := hlinter'
    obtain rfl := Except.ok.inj hmade
    obtain rfl := Except.ok.inj hmade'
    rfl

end Passes

/-- The tag of two rules, in another case, with a severity. -/
def taggedSeverity (s : Severity) : Config :=
  { Config.standard with options := [("quiet", .enabled true), ("BROKEN", .severity s.name)] }

theorem severity_of_taggedSeverity {s : Severity} {record : PassRecord}
    (hrun : run (taggedSeverity s) brokenRules Parser.builtin "a.txt" "x\ny" = .ok record) {v : Violation}
    (hv : v ∈ record.result.violations) : v.severity = s := by
  obtain ⟨inv, hinv, -, hseverity⟩ := exists_invocation_of_violation hrun hv
  have hinvs : invocations (taggedSeverity s) brokenRules.rules =
      [⟨panickingRule, s, .null⟩, ⟨failingRule, s, .null⟩] := by
    cases s <;> rfl
  rw [hinvs, List.mem_pair] at hinv
  rw [hseverity]
  rcases hinv with rfl | rfl <;> rfl

/-- With a warning in the place of an error all violations become warnings, and the failures stay. -/
theorem settings_of_brokenRules :
    (taggedSeverity .error).options = [("quiet", .enabled true)] ++ ("BROKEN", .severity "error") :: [] ∧
      (RuleOption.severity "error").Plain ∧ (RuleOption.severity "warning").Plain ∧
    ∃ record record',
      run (taggedSeverity .error) brokenRules Parser.builtin "a.txt" "x\ny" = .ok record ∧
      run (taggedSeverity .warning) brokenRules Parser.builtin "a.txt" "x\ny" = .ok record' ∧
      record'.result.failures = record.result.failures ∧
      record'.result.violations = record.result.violations.map fun v => { v with severity := .warning } := by
  have hends : (run (taggedSeverity .error) brokenRules Parser.builtin "a.txt" "x\ny").isOk := by decide +kernel
  obtain ⟨-, hreplaced, -⟩ :=
    settings_do_not_interfere (taggedSeverity .error) brokenRules Parser.builtin "a.txt" "x\ny"
  obtain ⟨severityOf, -, hresults, -⟩ :=
    hreplaced [("quiet", .enabled true)] "BROKEN" (.severity "error") (.severity "warning") [] rfl .error .warning
  have hresults : (run (taggedSeverity .warning) brokenRules Parser.builtin "a.txt" "x\ny").map PassRecord.result =
      (run (taggedSeverity .error) brokenRules Parser.builtin "a.txt" "x\ny").map fun record =>
        record.result.withSeverity severityOf := hresults Ledger.roundRobin Ledger.roundRobin
  refine ⟨rfl, .error, .warning, ?_⟩
  cases hrun : run (taggedSeverity .error) brokenRules Parser.builtin "a.txt" "x\ny" with
  | error stop => simp [hrun, Except.isOk, Except.toBool] at hends
  | ok record =>
    cases hrun' : run (taggedSeverity .warning) brokenRules Parser.builtin "a.txt" "x\ny" with
    | error stop =>
      rw [hrun, hrun'] at hresults
      cases hresults
    | ok record' =>
      rw [hrun, hrun'] at hresults
      have hresult : record'.result = record.result.withSeverity severityOf := Except.ok.inj hresults
      refine ⟨record, record', rfl, rfl, by rw [hresult]; rfl, ?_⟩
      have hwarning : ∀ v ∈ record.result.violations, severityOf v.ruleName = .warning := by
        intro v hv
        apply severity_of_taggedSeverity hrun' (v := v.withSeverity severityOf)
        rw [hresult]
        exact List.mem_map_of_mem hv
      rw [hresult]
      apply List.map_congr_left
      intro v hv
      rw [Violation.withSeverity, hwarning v hv]

end Pass

end DocLint
