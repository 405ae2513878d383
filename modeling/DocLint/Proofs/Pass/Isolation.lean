import DocLint.Proofs.Pass.Violations
import Mathlib.Data.List.Flatten

/-!
# Rules do not affect each other

When a rule is taken out of a set, the result of a pass loses the entries of that rule and nothing else, in
whatever way the rule fails or misbehaves.
-/

namespace DocLint

set_option autoImplicit false

namespace RuleSet

/-- The set without the rule at an index. -/
def without (set : RuleSet) (k : Nat) : RuleSet where
  rules := set.rules.eraseIdx k
  distinct := by
    have hsub : (set.rules.eraseIdx k).Sublist set.rules := List.eraseIdx_sublist ..
    exact set.distinct.sublist (hsub.flatMap _)

theorem rules_without {set : RuleSet} {k : Nat} {r : Rule} (hk : set.rules[k]? = some r) :
    (set.without k).rules = set.rules.filter fun s => s.name ≠ r.name := by
  obtain ⟨hlt, rfl⟩ := List.getElem?_eq_some_iff.mp hk
  have hne := set.pairwise_name_ne
  rw [← List.take_append_drop k set.rules, ← List.getElem_cons_drop hlt, List.pairwise_append,
    List.pairwise_cons] at hne
  obtain ⟨-, ⟨hafter, -⟩, hbefore⟩ := hne
  have hsplit : set.rules = set.rules.take k ++ set.rules[k] :: set.rules.drop (k + 1) := by
    rw [List.getElem_cons_drop, List.take_append_drop]
  have hkeepBefore : ((set.rules.take k).filter fun s => s.name ≠ set.rules[k].name) = set.rules.take k := by
    rw [List.filter_eq_self]
    intro s hs
    simpa using hbefore s hs _ List.mem_cons_self
  have hkeepAfter : ((set.rules.drop (k + 1)).filter fun s => s.name ≠ set.rules[k].name) =
      set.rules.drop (k + 1) := by
    rw [List.filter_eq_self]
    intro s hs
    simpa using (hafter s hs).symm
  calc (set.without k).rules
      = set.rules.take k ++ set.rules.drop (k + 1) := List.eraseIdx_eq_take_drop_succ ..
    _ = (set.rules.take k ++ set.rules[k] :: set.rules.drop (k + 1)).filter
          fun s => s.name ≠ set.rules[k].name := by
        rw [List.filter_append, List.filter_cons_of_neg (by simp), hkeepBefore, hkeepAfter]
    _ = set.rules.filter fun s => s.name ≠ set.rules[k].name := by rw [← hsplit]

end RuleSet

/-- The result without the entries of the rule with a name. -/
def LintResult.without (result : LintResult) (rule : String) : LintResult :=
  { result with
    violations := result.violations.filter fun v => v.ruleName ≠ rule
    failures := result.failures.filter fun f => f.rule ≠ rule
    timings := result.timings.filter fun t => t ≠ rule }

namespace Invocation

theorem ruleName_of_share {documents : List Document} {n : Nat} {inv : Invocation} {s : Share}
    (h : inv.share documents n = .ok s) : ∀ v ∈ s.violations, v.ruleName = s.rule := by
  rw [violations_of_share h, rule_of_share h, found]
  intro v hv
  obtain ⟨r, -, rfl⟩ := List.mem_map.mp hv
  rfl

end Invocation

namespace Pass

theorem ruleName_of_shares {documents : List Document} {n : Nat} {invs : List Invocation} {found : List Share}
    (hfound : shares documents n invs = .ok found) : ∀ s ∈ found, ∀ v ∈ s.violations, v.ruleName = s.rule := by
  intro s hs
  obtain ⟨inv, -, hshare⟩ := exists_of_mem_forall₂ (shares_eq_ok_iff.mp hfound) hs
  exact inv.ruleName_of_share hshare

theorem invocations_filter (config : Config) (rules : List Rule) (rule : String) :
    invocations config (rules.filter fun r => r.name ≠ rule) =
      (invocations config rules).filter fun inv => inv.rule.name ≠ rule := by
  unfold invocations
  rw [List.filterMap_filter, List.filter_filterMap]
  apply List.filterMap_congr
  intro r _
  cases config.resolve r.descriptor with
  | none => simp
  | some settings => by_cases hr : r.name = rule <;> simp [hr, Option.filter_some]

section Filter
variable {found : List Share} (rule : String)

theorem flatMap_filter_name (p : String → Bool) {β : Type} (entries : Share → List β) (nameOf : β → String)
    (hnames : ∀ s ∈ found, ∀ b ∈ entries s, nameOf b = s.rule) :
    (found.filter fun s => p s.rule).flatMap entries =
      (found.flatMap entries).filter fun b => p (nameOf b) := by
  induction found with
  | nil => rfl
  | cons s rest ih =>
    have hown := hnames s List.mem_cons_self
    have hrest := ih fun t ht => hnames t (List.mem_cons_of_mem _ ht)
    rw [List.flatMap_cons, List.filter_append, ← hrest]
    by_cases hs : p s.rule = true
    · have hall : ((entries s).filter fun b => p (nameOf b)) = entries s := by
        rw [List.filter_eq_self]
        intro b hb
        rw [hown b hb, hs]
      rw [List.filter_cons, if_pos hs, hall, List.flatMap_cons]
    · have hnone : ((entries s).filter fun b => p (nameOf b)) = [] := by
        rw [List.filter_eq_nil_iff]
        intro b hb
        rwa [hown b hb]
      rw [List.filter_cons, if_neg hs, hnone, List.nil_append]

theorem flatMap_filter_rule {β : Type} (entries : Share → List β) (nameOf : β → String)
    (hnames : ∀ s ∈ found, ∀ b ∈ entries s, nameOf b = s.rule) :
    (found.filter fun s => s.rule ≠ rule).flatMap entries =
      (found.flatMap entries).filter fun b => nameOf b ≠ rule :=
  flatMap_filter_name (fun n => n ≠ rule) entries nameOf hnames

/-- The shares of all rules but one make up the result without the entries of that rule. -/
theorem assemble_filter (config : Config) (name : String)
    (hnames : ∀ s ∈ found, ∀ v ∈ s.violations, v.ruleName = s.rule) :
    assemble config name (found.filter fun s => s.rule ≠ rule) =
      (assemble config name found).without rule := by
  have hviolations := flatMap_filter_rule rule Share.violations Violation.ruleName hnames
  have hfailed : ∀ s ∈ found, ∀ f ∈ s.failures, f.rule = s.rule := by
    intro s _ f hf
    obtain ⟨e, -, rfl⟩ := List.mem_map.mp hf
    rfl
  have hfailures := flatMap_filter_rule rule Share.failures RuleFailure.rule hfailed
  have htimings : ((found.filter fun s => s.rule ≠ rule).filter Share.called).map Share.rule =
      ((found.filter Share.called).map Share.rule).filter fun t => t ≠ rule := by
    rw [List.filter_comm, List.filter_map]
    rfl
  have harrange := arrange_filter (p := fun v => decide (v.ruleName ≠ rule))
    (q := fun k => decide (k.1 ≠ rule)) (fun _ => rfl) config (found.flatMap Share.violations)
  unfold assemble LintResult.without
  simp only [hviolations, hfailures, htimings, harrange]
  split <;> rfl

end Filter

/-- Rules other than one have the shares that they have beside it. -/
theorem shares_filter {parsers : List Parser} {name source : String} {invs : List Invocation}
    {documents : List Document} {found : List Share} (hfaithful : ∀ p ∈ parsers, p.Faithful)
    (hread : readAll name source (neededParsers parsers invs) = .ok documents)
    (hfound : shares documents (physicalLines source).length invs = .ok found) (rule : String) :
    ∃ documents',
      readAll name source (neededParsers parsers (invs.filter fun inv => inv.rule.name ≠ rule)) =
        .ok documents' ∧
      shares documents' (physicalLines source).length (invs.filter fun inv => inv.rule.name ≠ rule) =
        .ok (found.filter fun s => s.rule ≠ rule) := by
  have haccepted : ∀ p ∈ neededParsers parsers (invs.filter fun inv => inv.rule.name ≠ rule),
      ∃ stream, p.parse source = .ok stream := by
    intro p hp
    obtain ⟨inv, hinv, hfind⟩ := mem_neededParsers.mp hp
    apply exists_readAll_iff.mp ⟨documents, hread⟩
    exact mem_neededParsers.mpr ⟨inv, (List.mem_filter.mp hinv).1, hfind⟩
  obtain ⟨documents', hread'⟩ := exists_readAll_iff.mpr haccepted
  refine ⟨documents', hread', ?_⟩
  have hshare : ∀ inv ∈ invs.filter fun inv => inv.rule.name ≠ rule,
      inv.share documents' (physicalLines source).length =
        inv.share documents (physicalLines source).length := by
    intro inv hinv
    have hdocument := find?_document hfaithful hread (List.mem_filter.mp hinv).1
    have hdocument' := find?_document hfaithful hread' hinv
    rw [Invocation.share, Invocation.share, hdocument, hdocument']
  rw [shares_eq_ok_iff] at hfound ⊢
  refine forall₂_filter hfound ?_ ?_
  · intro inv s hs
    rw [Invocation.rule_of_share hs]
  · intro inv hinv s hs
    rw [hshare inv hinv, hs]

/-- Taking a rule out of a set takes its entries out of the result, and changes nothing else: not the
violations, failures or names of the other rules, nor their order. Whatever the rule does, it does not affect
the others. -/
theorem result_without_rule (schedule schedule' : Ledger → List Nat) {config : Config} {rules : RuleSet}
    {parsers : List Parser} {name source : String} {record : PassRecord} {k : Nat} {r : Rule}
    (hfaithful : ∀ p ∈ parsers, p.Faithful) (hk : rules.rules[k]? = some r)
    (hrun : runWith schedule config rules parsers name source = .ok record) :
    ∃ record', runWith schedule' config (rules.without k) parsers name source = .ok record' ∧
      record'.result = record.result.without r.name := by
  obtain ⟨documents, found, hread, hfound, hresult⟩ := (alone_eq_ok_iff ..).mp (alone_of_runWith hrun)
  obtain ⟨documents', hread', hfound'⟩ := shares_filter hfaithful hread hfound r.name
  rw [← invocations_filter, ← RuleSet.rules_without hk] at hread' hfound'
  have hnames : ∀ s ∈ found, ∀ v ∈ s.violations, v.ruleName = s.rule := by
    intro s hs
    obtain ⟨inv, -, hshare⟩ := exists_of_mem_forall₂ (shares_eq_ok_iff.mp hfound) hs
    exact inv.ruleName_of_share hshare
  have halone : alone config (rules.without k) parsers name source =
      .ok (record.result.without r.name) := by
    rw [alone_eq_ok_iff, ← hresult, ← assemble_filter r.name config name hnames]
    exact ⟨documents', _, hread', hfound', rfl⟩
  exact runWith_of_alone schedule' halone

/-- Without the rule that fails, the one that panics has what it had. -/
theorem result_without_failingRule :
    (∀ p ∈ Parser.builtin, p.Faithful) ∧ brokenRules.rules[1]? = some failingRule ∧
    ∃ record record',
      runWith Ledger.roundRobin .standard brokenRules Parser.builtin "a.txt" "x\ny" = .ok record ∧
      runWith Ledger.roundRobin .standard (brokenRules.without 1) Parser.builtin "a.txt" "x\ny" =
        .ok record' ∧
      record'.result = record.result.without "failing" := by
  have hfaithful : ∀ p ∈ Parser.builtin, p.Faithful := fun _ => Parser.faithful_of_mem_builtin
  obtain ⟨record, hrun⟩ := exists_runWith_brokenRules
  obtain ⟨record', hrun', hresult⟩ :=
    result_without_rule Ledger.roundRobin Ledger.roundRobin (k := 1) hfaithful rfl hrun
  exact ⟨hfaithful, rfl, record, record', hrun, hrun', hresult⟩

end Pass

end DocLint
