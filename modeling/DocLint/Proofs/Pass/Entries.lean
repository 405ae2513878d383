import DocLint.Proofs.Pass.Calls
import DocLint.Proofs.Pass.Duplicates
import DocLint.Proofs.Pass.Parsing
import DocLint.Proofs.PlainText

/-!
# What there is of one rule

The entries of a rule in a result are found by its name. They come from the share of this rule alone.
-/

namespace DocLint

set_option autoImplicit false

namespace LintResult

/-- The violations of a rule. -/
def violationsOf (result : LintResult) (r : Rule) : List Violation :=
  result.violations.filter fun v => v.ruleName = r.name

end LintResult

namespace Pass

section Shares
variable {config : Config} {rules : RuleSet} {parsers : List Parser} {name source : String}
  {documents : List Document} {invs : List Invocation} {found : List Share} {r : Rule} {settings : Settings}

theorem violationsOf_assemble (config : Config) (name : String) (r : Rule)
    (hown : ∀ s ∈ found, ∀ v ∈ s.violations, v.ruleName = s.rule) :
    (assemble config name found).violationsOf r =
      arrange config ((found.filter fun s => s.rule = r.name).flatMap Share.violations) := by
  rw [flatMap_filter_name (fun n => n = r.name) Share.violations Violation.ruleName hown]
  exact arrange_filter (q := fun key => key.1 = r.name) (fun _ => rfl) config _

theorem failuresOf_assemble (config : Config) (name : String) (found : List Share) (r : Rule) :
    (assemble config name found).failuresOf r =
      (found.filter fun s => s.rule = r.name).flatMap Share.failures := by
  symm
  apply flatMap_filter_name (fun n => n = r.name) Share.failures RuleFailure.rule
  intro s _ f hf
  obtain ⟨e, -, rfl⟩ := List.mem_map.mp hf
  rfl

theorem mem_invocations {rules : List Rule} :
    ⟨r, settings⟩ ∈ invocations config rules ↔ r ∈ rules ∧ config.resolve r.descriptor = some settings := by
  rw [invocations, List.mem_filterMap]
  constructor
  · rintro ⟨r', hr', h⟩
    obtain ⟨settings', hsettings, hinv⟩ := Option.map_eq_some_iff.mp h
    cases hinv
    exact ⟨hr', hsettings⟩
  · rintro ⟨hr, hsettings⟩
    exact ⟨r, hr, by rw [hsettings, Option.map_some]⟩

/-- A rule is told by its name. -/
theorem eq_of_name_eq {r r' : Rule} (hr : r ∈ rules.rules) (hr' : r' ∈ rules.rules) (h : r.name = r'.name) :
    r = r' := by
  have hnames : (rules.rules.map Rule.name).Nodup := List.pairwise_map.mpr rules.pairwise_name_ne
  exact List.inj_on_of_nodup_map hnames hr hr' h

/-- An enabled rule has one share, which is found by its name. -/
theorem filter_rule_of_shares
    (hfound : shares documents (physicalLines source).length (invocations config rules.rules) = .ok found)
    (hr : r ∈ rules.rules) (hsettings : config.resolve r.descriptor = some settings) :
    ∃ s, Invocation.share documents (physicalLines source).length ⟨r, settings⟩ = .ok s ∧
      found.filter (fun s => s.rule = r.name) = [s] := by
  have hinv := mem_invocations.mpr ⟨hr, hsettings⟩
  obtain ⟨s, hs, hshare⟩ := exists_of_mem_forall₂ (shares_eq_ok_iff.mp hfound).flip hinv
  refine ⟨s, hshare, ?_⟩
  have hname : s.rule = r.name := Invocation.rule_of_share hshare
  have hdistinct : found.Pairwise fun s t => s.rule ≠ t.rule := List.pairwise_map.mp (nodup_rule hfound)
  apply PlainText.filter_eq_singleton hdistinct _ hs (decide_eq_true hname)
  intro s t hne hboth
  rw [decide_eq_true_eq, decide_eq_true_eq] at hboth
  exact hne (hboth.1.trans hboth.2.symm)

end Shares

section Arranged
variable {vs : List Violation}

theorem dedup_of_nodup {seen : List Violation.Key} (h : (vs.map Violation.key).Nodup)
    (hseen : ∀ v ∈ vs, v.key ∉ seen) : dedup seen vs = vs := by
  induction vs generalizing seen with
  | nil => rfl
  | cons v rest ih =>
    obtain ⟨hv, hrest⟩ := List.forall_mem_cons.mp hseen
    obtain ⟨hfirst, hnodup⟩ := List.nodup_cons.mp h
    rw [dedup_cons_of_not_mem hv, ih hnodup]
    intro w hw hmem
    rcases List.mem_cons.mp hmem with heq | hmem
    · exact hfirst (heq ▸ List.mem_map_of_mem hw)
    · exact hrest w hw hmem

/-- Violations on ascending lines stay as they are. -/
theorem arrange_of_ascending (config : Config) (h : vs.Pairwise fun v w => v.line < w.line) :
    arrange config vs = vs := by
  have hnodup : (vs.map Violation.key).Nodup := by
    apply List.pairwise_map.mpr (h.imp _)
    intro v w hlt heq
    have hline : v.line = w.line := congrArg (fun k : Violation.Key => k.2.1) heq
    omega
  have hbase : (if config.deduplicate then dedup [] vs else vs) = vs := by
    split
    · exact dedup_of_nodup hnodup fun _ _ => List.not_mem_nil
    · rfl
  rw [arrange, hbase]
  apply List.mergeSort_of_pairwise
  apply h.imp
  intro v w hlt
  rw [Violation.before, decide_eq_true hlt, Bool.true_or]

end Arranged

/-- A rule that reports no other lines than those of the document, and ends well, has a violation for each report. -/
theorem ran_of_within {inv : Invocation} {n : Nat} {t : Trace} (hwithin : ∀ x ∈ t.reports, x.isWithin n = true)
    (hended : t.outcome.error? = none) :
    (inv.ran n t).violations = t.reports.map inv.violation ∧ (inv.ran n t).errors = [] := by
  have houtside : (t.reports.filter (!Report.isWithin n ·)) = [] := by
    rw [List.filter_eq_nil_iff]
    intro x hx
    rw [hwithin x hx]
    exact Bool.false_ne_true
  constructor
  · rw [Invocation.ran, List.filter_eq_self.mpr hwithin]
  · rw [Invocation.ran, hended, houtside]
    rfl

section Passes
variable {config : Config} {rules : RuleSet} {parsers : List Parser} {name source : String}
  {documents : List Document} {r : Rule} {settings : Settings}

theorem parse_markdown (hnul : '\x00' ∉ source.toList) :
    Parser.markdown.parse source = .ok ⟨.markdown, tokensOf source (Markdown.readDocument source)⟩ := by
  simp only [Parser.markdown, PlainText.checkSource_eq_ok hnul]
  rfl

theorem parse_plainText (hnul : '\x00' ∉ source.toList) :
    Parser.plainText.parse source = .ok ⟨.text, PlainText.tokens source⟩ := by
  simp only [Parser.plainText, PlainText.checkSource_eq_ok hnul]
  rfl

/-- The parsers of the library read every source without NUL. -/
theorem exists_readAll_builtin (name : String) (hnul : '\x00' ∉ source.toList) (invs : List Invocation) :
    ∃ documents, readAll name source (neededParsers Parser.builtin invs) = .ok documents := by
  cases hread : readAll name source (neededParsers Parser.builtin invs) with
  | ok documents => exact ⟨documents, rfl⟩
  | error e =>
    obtain ⟨-, before, after, hsplit, -⟩ := readAll_builtin_eq_error_iff.mp hread
    refine absurd ?_ hnul
    rw [hsplit]
    exact List.mem_append_right before List.mem_cons_self

/-- A pass over a source without NUL comes to a result unless the check of some options breaks off. -/
theorem runWith_or_breaks (schedule : Ledger → List Nat) (config : Config) (rules : RuleSet) (name : String)
    (hnul : '\x00' ∉ source.toList) :
    (∃ record, runWith schedule config rules Parser.builtin name source = .ok record) ∨
      ∃ m, runWith schedule config rules Parser.builtin name source = .error (.panicked m) ∧
        Breaks (invocations config rules.rules) m := by
  obtain ⟨documents, hread⟩ := exists_readAll_builtin name hnul (invocations config rules.rules)
  rcases alone_cases config rules Parser.builtin name source with
    ⟨e, hunread, -⟩ | ⟨m, hbreaks, halone⟩ | ⟨result, halone⟩
  · cases hread.symm.trans hunread
  · exact .inr ⟨m, (runWith_eq_error_iff schedule).mpr halone, hbreaks⟩
  · obtain ⟨record, hrun, -⟩ := runWith_of_alone schedule halone
    exact .inl ⟨record, hrun⟩

/-- What there is of an enabled rule in the result is what becomes of this rule. -/
theorem entries_of_runWith {schedule : Ledger → List Nat} {record : PassRecord}
    (hfaithful : ∀ p ∈ parsers, p.Faithful)
    (hrun : runWith schedule config rules parsers name source = .ok record) (hr : r ∈ rules.rules)
    (hsettings : config.resolve r.descriptor = some settings) :
    ∃ s, Invocation.Becomes parsers name source ⟨r, settings⟩ s ∧
      record.result.violationsOf r = arrange config s.violations ∧ record.result.failuresOf r = s.failures := by
  obtain ⟨documents, found, hread, hfound, hresult⟩ := (alone_eq_ok_iff ..).mp (alone_of_runWith hrun)
  obtain ⟨s, hshare, hone⟩ := filter_rule_of_shares hfound hr hsettings
  refine ⟨s, becomes_of_share hfaithful hread (mem_invocations.mpr ⟨hr, hsettings⟩) hshare, ?_, ?_⟩
  · rw [← hresult, violationsOf_assemble config name r (ruleName_of_shares hfound), hone, List.flatMap_singleton]
  · rw [← hresult, failuresOf_assemble, hone, List.flatMap_singleton]

/-- What adds nothing may be left out. -/
theorem flatMap_filter_of_nil {α β : Type} {f : α → List β} {p : α → Bool} {l : List α}
    (h : ∀ a ∈ l, p a = false → f a = []) : (l.filter p).flatMap f = l.flatMap f := by
  induction l with
  | nil => rfl
  | cons a rest ih =>
    obtain ⟨ha, hrest⟩ := List.forall_mem_cons.mp h
    cases hp : p a with
    | true => rw [List.filter_cons_of_pos hp, List.flatMap_cons, List.flatMap_cons, ih hrest]
    | false =>
      rw [List.filter_cons_of_neg (by simp [hp]), List.flatMap_cons, ha hp, List.nil_append, ih hrest]

/-- An enabled rule that is rejected has one failure and nothing else, and all calls are those of other rules. -/
theorem entries_of_rejected {schedule : Ledger → List Nat} {record : PassRecord} {e : RuleError}
    (hfaithful : ∀ p ∈ parsers, p.Faithful)
    (hrun : runWith schedule config rules parsers name source = .ok record) (hr : r ∈ rules.rules)
    (hsettings : config.resolve r.descriptor = some settings)
    (hparser : ∃ p ∈ parsers, p.kind = r.descriptor.parser)
    (hverdict : r.validate settings.options = .rejected e) :
    record.result.failuresOf r = [⟨r.name, e⟩] ∧ record.result.violationsOf r = [] ∧
      r.name ∉ record.result.timings ∧
      ∃ documents,
        readAll name source (neededParsers parsers (invocations config rules.rules)) = .ok documents ∧
        record.calls.Perm (((invocations config rules.rules).filter fun inv => inv.rule.name ≠ r.name).flatMap
          (Invocation.calls documents)) := by
  have hinv := mem_invocations.mpr ⟨hr, hsettings⟩
  obtain ⟨documents, found, hread, hfound, hresult⟩ := (alone_eq_ok_iff ..).mp (alone_of_runWith hrun)
  obtain ⟨s, hshare, hone⟩ := filter_rule_of_shares hfound hr hsettings
  have hs : s = ⟨r.name, [], [e], false⟩ := by
    cases becomes_of_share hfaithful hread hinv hshare with
    | unavailable hnone =>
      obtain ⟨p, hp, hkind⟩ := hparser
      exact absurd hkind (hnone p hp)
    | rejected _ _ hverdict' => rw [Verdict.rejected.inj (hverdict'.symm.trans hverdict)]
    | called _ _ haccepted _ => cases haccepted.symm.trans hverdict
  subst hs
  obtain ⟨documents', hread', hcalls⟩ := calls_perm hrun
  obtain rfl := Except.ok.inj (hread.symm.trans hread')
  refine ⟨?_, ?_, ?_, documents, hread, ?_⟩
  · rw [← hresult, failuresOf_assemble, hone]
    rfl
  · rw [← hresult, violationsOf_assemble config name r (ruleName_of_shares hfound), hone, arrange]
    split <;> simp [dedup]
  · rw [← hresult, assemble]
    split
    · intro htimed
      obtain ⟨s', hs', hrule⟩ := List.mem_map.mp htimed
      obtain ⟨hmem, hcalled⟩ := List.mem_filter.mp hs'
      have hs'' : s' ∈ found.filter fun s => s.rule = r.name := List.mem_filter.mpr ⟨hmem, decide_eq_true hrule⟩
      rw [hone, List.mem_singleton] at hs''
      subst hs''
      cases hcalled
    · exact List.not_mem_nil
  · rw [flatMap_filter_of_nil]
    · exact hcalls
    · rintro ⟨r', settings'⟩ hinv' hname
      obtain ⟨hr', hsettings'⟩ := mem_invocations.mp hinv'
      obtain rfl : r' = r := eq_of_name_eq hr' hr (by simpa using hname)
      obtain rfl := Option.some.inj (hsettings'.symm.trans hsettings)
      exact calls_of_rejected hverdict

end Passes

end Pass

end DocLint
