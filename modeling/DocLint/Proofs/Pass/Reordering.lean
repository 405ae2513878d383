import DocLint.Proofs.Pass.Failures
import Mathlib.Data.List.Perm.Basic

/-!
# Rules in another order

When the same rules are registered in another order, a pass finds the same violations in the same order: the sort
separates the rules, because no two of them have the same name. What else there is of a rule in the result stands
together, at the place that the rule has among the others.
-/

namespace DocLint

set_option autoImplicit false

namespace LintResult

/-- The failures of a rule. -/
def failuresOf (result : LintResult) (r : Rule) : List RuleFailure :=
  result.failures.filter fun f => f.rule = r.name

/-- What is recorded of the runs of a rule. -/
def timingsOf (result : LintResult) (r : Rule) : List String :=
  result.timings.filter fun t => t = r.name

/-- Two results have the same violations. Apart from that each holds what there is of every rule, in the order of
its own rules. -/
structure Regrouped (rules rules' : List Rule) (result result' : LintResult) : Prop where
  name : result'.name = result.name
  violations : result'.violations = result.violations
  failures_left : result.failures = rules.flatMap result.failuresOf
  failures_right : result'.failures = rules'.flatMap result.failuresOf
  timings_left : result.timings = rules.flatMap result.timingsOf
  timings_right : result'.timings = rules'.flatMap result.timingsOf

end LintResult

namespace Pass

section Groups
variable {found found' : List Share} {names : List String}

/-- Rules with different names are found again by their names. -/
theorem flatMap_filter_names (hnames : names.Nodup) (hsub : (found.map Share.rule).Sublist names) :
    (names.flatMap fun n => found.filter fun s => s.rule = n) = found := by
  induction names generalizing found with
  | nil =>
    rw [List.sublist_nil, List.map_eq_nil_iff] at hsub
    rw [hsub]
    rfl
  | cons n rest ih =>
    obtain ⟨hn, hrest⟩ := List.nodup_cons.mp hnames
    cases found with
    | nil => simp
    | cons s more =>
      rw [List.map_cons] at hsub
      have hother : ∀ {l : List Share}, (l.map Share.rule).Sublist rest → (l.filter fun s => s.rule = n) = [] := by
        intro l hl
        rw [List.filter_eq_nil_iff]
        intro t ht heq
        rw [decide_eq_true_eq] at heq
        exact hn (heq ▸ hl.subset (List.mem_map_of_mem ht))
      rw [List.flatMap_cons]
      cases hsub with
      | cons _ hskip =>
        have hall : (s.rule :: more.map Share.rule) = (s :: more).map Share.rule := rfl
        rw [hother (hall ▸ hskip), List.nil_append]
        exact ih hrest (hall ▸ hskip)
      | cons_cons _ htail =>
        have hhead : ((s :: more).filter fun t => t.rule = s.rule) = [s] := by
          rw [List.filter_cons_of_pos (by simp), hother htail]
        have hcongr : (rest.flatMap fun m => (s :: more).filter fun t => t.rule = m) =
            rest.flatMap fun m => more.filter fun t => t.rule = m := by
          apply List.flatMap_congr
          intro m hm
          have hne : s.rule ≠ m := fun h => hn (h ▸ hm)
          rw [List.filter_cons_of_neg (by simpa using hne)]
        rw [hhead, hcongr, ih hrest htail]
        rfl

/-- A property that no two names share picks the same from the shares in any order. -/
theorem filter_eq_of_perm (hperm : found.Perm found') (hnodup : (found.map Share.rule).Nodup)
    {p : String → Bool} (hp : ∀ m n, p m = true → p n = true → m = n) :
    (found.filter fun s => p s.rule) = found'.filter fun s => p s.rule := by
  have hone : ∀ {l : List Share}, (l.map Share.rule).Nodup →
      (l.filter fun s => p s.rule).Pairwise fun _ _ => False := by
    intro l hl
    rw [List.pairwise_filter]
    refine (List.pairwise_map.mp hl).imp ?_
    intro s t hst hs ht
    exact hst (hp _ _ hs ht)
  have hnodup' : (found'.map Share.rule).Nodup := (hperm.map Share.rule).nodup_iff.mp hnodup
  exact (hperm.filter _).eq_of_pairwise (fun _ _ _ _ h => h.elim) (hone hnodup) (hone hnodup')

section Entries
variable {β : Type} (entries : Share → List β) (nameOf : β → String)

/-- What the shares hold is regrouped by the names of the rules into what it was. -/
theorem flatMap_groups (hnames : names.Nodup) (hsub : (found.map Share.rule).Sublist names)
    (hown : ∀ s ∈ found, ∀ b ∈ entries s, nameOf b = s.rule) :
    (names.flatMap fun n => (found.flatMap entries).filter fun b => nameOf b = n) = found.flatMap entries := by
  have hgroup : ∀ n, ((found.flatMap entries).filter fun b => nameOf b = n) =
      (found.filter fun s => s.rule = n).flatMap entries := by
    intro n
    exact (flatMap_filter_name (fun m => m = n) entries nameOf hown).symm
  simp only [hgroup]
  rw [← List.flatMap_assoc, flatMap_filter_names hnames hsub]

theorem group_eq_of_perm (hperm : found.Perm found') (hnodup : (found.map Share.rule).Nodup)
    (hown : ∀ s ∈ found, ∀ b ∈ entries s, nameOf b = s.rule) {p : String → Bool}
    (hp : ∀ m n, p m = true → p n = true → m = n) :
    ((found.flatMap entries).filter fun b => p (nameOf b)) =
      (found'.flatMap entries).filter fun b => p (nameOf b) := by
  have hown' : ∀ s ∈ found', ∀ b ∈ entries s, nameOf b = s.rule :=
    fun s hs => hown s (hperm.mem_iff.mpr hs)
  rw [← flatMap_filter_name p entries nameOf hown, ← flatMap_filter_name p entries nameOf hown',
    filter_eq_of_perm hperm hnodup hp]

theorem flatMap_groups_of_perm {rules : List Rule} (hperm : found.Perm found')
    (hnames : (rules.map Rule.name).Nodup) (hsub : (found'.map Share.rule).Sublist (rules.map Rule.name))
    (hown : ∀ s ∈ found, ∀ b ∈ entries s, nameOf b = s.rule) :
    found'.flatMap entries =
      rules.flatMap fun r => (found.flatMap entries).filter fun b => nameOf b = r.name := by
  have hnodup : (found.map Share.rule).Nodup :=
    (hperm.map Share.rule).nodup_iff.mpr (hnames.sublist hsub)
  have hown' : ∀ s ∈ found', ∀ b ∈ entries s, nameOf b = s.rule :=
    fun s hs => hown s (hperm.mem_iff.mpr hs)
  have hgroup : ∀ n, ((found.flatMap entries).filter fun b => nameOf b = n) =
      (found'.flatMap entries).filter fun b => nameOf b = n := by
    intro n
    refine group_eq_of_perm entries nameOf hperm hnodup hown (p := fun m => m = n) ?_
    intro m m' hm hm'
    rw [decide_eq_true_eq] at hm hm'
    rw [hm, hm']
  simp only [hgroup]
  rw [← List.flatMap_map Rule.name fun n => (found'.flatMap entries).filter fun b => nameOf b = n,
    flatMap_groups entries nameOf hnames hsub hown']

end Entries

/-- The order of violations does not depend on the order of the rules: violations that the sort leaves as they
stood are of one rule. -/
theorem arrange_eq_of_perm (config : Config) (hperm : found.Perm found')
    (hnodup : (found.map Share.rule).Nodup)
    (hown : ∀ s ∈ found, ∀ v ∈ s.violations, v.ruleName = s.rule) :
    arrange config (found.flatMap Share.violations) = arrange config (found'.flatMap Share.violations) := by
  have hsort := isStableSort_arrange config (found.flatMap Share.violations)
  have hsort' := isStableSort_arrange config (found'.flatMap Share.violations)
  refine eq_of_sorted_of_filter_eq hsort.sorted hsort'.sorted ?_
  intro k
  have hname : ∀ m n : String, decide (Text.bytes m = (ofLex k).2) = true →
      decide (Text.bytes n = (ofLex k).2) = true → m = n := by
    intro m n hm hn
    rw [decide_eq_true_eq] at hm hn
    exact Text.bytes_injective (hm.trans hn.symm)
  -- the violations with one sort key are among those of one rule, and so come from one share
  have hclass (p : Violation → Bool) (hp : ∀ v, p v = decide (v.sortKey = k)) :
      (arrange config (found.flatMap Share.violations)).filter p =
        (arrange config (found'.flatMap Share.violations)).filter p := by
    have hkey : ∀ v, p v = decide (toLex (v.key.2.1, Text.bytes v.key.1) = k) := hp
    have hsub (all : List Violation) : all.filter p =
        (all.filter fun v => Text.bytes v.ruleName = (ofLex k).2).filter p := by
      rw [List.filter_filter]
      apply List.filter_congr
      intro v _
      rw [hp, Bool.eq_iff_iff, Bool.and_eq_true, decide_eq_true_eq, decide_eq_true_eq]
      constructor
      · rintro rfl
        exact ⟨rfl, rfl⟩
      · exact fun h => h.1
    rw [arrange_filter (q := fun key => toLex (key.2.1, Text.bytes key.1) = k) hkey,
      arrange_filter (q := fun key => toLex (key.2.1, Text.bytes key.1) = k) hkey,
      hsub (found.flatMap Share.violations), hsub (found'.flatMap Share.violations),
      group_eq_of_perm Share.violations Violation.ruleName hperm hnodup hown
        (p := fun n => Text.bytes n = (ofLex k).2) hname]
  apply hclass
  intro v
  exact decide_eq_decide.mpr Iff.rfl

end Groups

section Runs
variable {config : Config} {rules rules' : RuleSet} {parsers : List Parser} {name source : String}
  {documents : List Document} {n : Nat} {invs invs' : List Invocation} {found found' : List Share}

theorem neededParsers_eq_of_perm (hperm : invs.Perm invs') :
    neededParsers parsers invs = neededParsers parsers invs' := by
  have hany : ∀ kind, (invs.any fun inv => inv.parser = kind) = invs'.any fun inv => inv.parser = kind :=
    fun kind => hperm.any_eq
  unfold neededParsers
  simp only [hany]

theorem shares_of_perm (hperm : invs.Perm invs') (hfound : shares documents n invs = .ok found) :
    ∃ found', shares documents n invs' = .ok found' ∧ found.Perm found' := by
  obtain ⟨found', hfound', hfoundPerm⟩ := List.perm_comp_forall₂ hperm.symm (shares_eq_ok_iff.mp hfound)
  exact ⟨found', shares_eq_ok_iff.mpr hfound', hfoundPerm.symm⟩

theorem alone_of_unread {e : LintError}
    (hread : readAll name source (neededParsers parsers (invocations config rules.rules)) = .error e) :
    alone config rules parsers name source = .error (.error e) := by
  simp only [alone, hread, Except.mapError, bind, Except.bind]

theorem alone_of_stopped {stop : PassStop}
    (hread : readAll name source (neededParsers parsers (invocations config rules.rules)) = .ok documents)
    (hstop : shares documents (physicalLines source).length (invocations config rules.rules) = .error stop) :
    alone config rules parsers name source = .error stop := by
  simp only [alone, hread, hstop, Except.mapError, bind, Except.bind]

/-- The check of some rule's options breaks off, with a text if it leaves one. -/
def Breaks (invs : List Invocation) (m : Option String) : Prop :=
  ∃ inv ∈ invs, inv.rule.validate inv.settings.options = .panicked m

theorem shares_eq_error {stop : PassStop} (h : shares documents n invs = .error stop) :
    ∃ m, stop = .panicked m ∧ Breaks invs m := by
  obtain ⟨before, inv, after, rfl, -, hinv⟩ := mapM_eq_error_iff.mp h
  obtain ⟨-, m, hstop, hverdict⟩ := Invocation.share_eq_error_iff.mp hinv
  exact ⟨m, hstop, inv, List.mem_append_right before List.mem_cons_self, hverdict⟩

/-- A parser that rejects the source and a check that breaks off are all that can keep a pass from a result. -/
theorem alone_cases (config : Config) (rules : RuleSet) (parsers : List Parser) (name source : String) :
    (∃ e, readAll name source (neededParsers parsers (invocations config rules.rules)) = .error e ∧
      alone config rules parsers name source = .error (.error e)) ∨
    (∃ m, Breaks (invocations config rules.rules) m ∧
      alone config rules parsers name source = .error (.panicked m)) ∨
    ∃ result, alone config rules parsers name source = .ok result := by
  cases hread : readAll name source (neededParsers parsers (invocations config rules.rules)) with
  | error e => exact .inl ⟨e, rfl, alone_of_unread hread⟩
  | ok documents =>
    cases hfound : shares documents (physicalLines source).length (invocations config rules.rules) with
    | error stop =>
      obtain ⟨m, rfl, hbreaks⟩ := shares_eq_error hfound
      exact .inr (.inl ⟨m, hbreaks, alone_of_stopped hread hfound⟩)
    | ok found => exact .inr (.inr ⟨_, (alone_eq_ok_iff ..).mpr ⟨documents, found, hread, hfound, rfl⟩⟩)

theorem breaks_of_runWith {schedule : Ledger → List Nat} {m : Option String}
    (h : runWith schedule config rules parsers name source = .error (.panicked m)) :
    Breaks (invocations config rules.rules) m := by
  rw [runWith_eq_error_iff] at h
  rcases alone_cases config rules parsers name source with ⟨e, -, h'⟩ | ⟨m', hbreaks, h'⟩ | ⟨result, h'⟩
  · cases h.symm.trans h'
  · cases h.symm.trans h'
    exact hbreaks
  · cases h.symm.trans h'

theorem names_invocations_sublist (config : Config) (rules : List Rule) :
    ((invocations config rules).map fun inv => inv.rule.name).Sublist (rules.map Rule.name) := by
  induction rules with
  | nil => exact .slnil
  | cons r rest ih =>
    rw [invocations, List.filterMap_cons]
    cases config.resolve r.descriptor with
    | none => exact ih.cons _
    | some settings => exact ih.cons_cons _

/-- Shares in the order of other rules make up a result with the groups in the order of these. -/
theorem regrouped_assemble (config : Config) (name : String) (hperm : found.Perm found')
    (hnames : (rules.rules.map Rule.name).Nodup) (hnames' : (rules'.rules.map Rule.name).Nodup)
    (hsub : (found.map Share.rule).Sublist (rules.rules.map Rule.name))
    (hsub' : (found'.map Share.rule).Sublist (rules'.rules.map Rule.name))
    (hown : ∀ s ∈ found, ∀ v ∈ s.violations, v.ruleName = s.rule) :
    LintResult.Regrouped rules.rules rules'.rules (assemble config name found)
      (assemble config name found') := by
  have hfailed : ∀ s ∈ found, ∀ f ∈ s.failures, f.rule = s.rule := by
    intro s _ f hf
    obtain ⟨e, -, rfl⟩ := List.mem_map.mp hf
    rfl
  let timed (s : Share) : List String := if config.timings && s.called then [s.rule] else []
  have htimed : ∀ s ∈ found, ∀ t ∈ timed s, t = s.rule := by
    intro s _ t ht
    simp only [timed] at ht
    split at ht
    · exact List.mem_singleton.mp ht
    · exact absurd ht List.not_mem_nil
  have htimings : ∀ l, (assemble config name l).timings = l.flatMap timed := by
    intro l
    simp only [assemble, timed]
    cases config.timings with
    | false => simp
    | true =>
      induction l with
      | nil => rfl
      | cons s rest ih => cases hs : s.called <;> simp_all
  refine ⟨rfl, ?_, ?_, ?_, ?_, ?_⟩
  · exact (arrange_eq_of_perm config hperm (hnames.sublist hsub) hown).symm
  · exact flatMap_groups_of_perm Share.failures RuleFailure.rule (.refl found) hnames hsub hfailed
  · exact flatMap_groups_of_perm Share.failures RuleFailure.rule hperm hnames' hsub' hfailed
  · have hgroups := flatMap_groups_of_perm timed id (.refl found) hnames hsub htimed
    rw [← htimings found] at hgroups
    exact hgroups
  · have hgroups := flatMap_groups_of_perm timed id hperm hnames' hsub' htimed
    rw [← htimings found, ← htimings found'] at hgroups
    exact hgroups

theorem regrouped_of_shares (name : String)
    (hfound : shares documents n (invocations config rules.rules) = .ok found)
    (hfound' : shares documents n (invocations config rules'.rules) = .ok found') (hperm : found.Perm found') :
    LintResult.Regrouped rules.rules rules'.rules (assemble config name found)
      (assemble config name found') := by
  have hnames (set : RuleSet) : (set.rules.map Rule.name).Nodup := List.pairwise_map.mpr set.pairwise_name_ne
  have hsub {set : RuleSet} {l : List Share} (hl : shares documents n (invocations config set.rules) = .ok l) :
      (l.map Share.rule).Sublist (set.rules.map Rule.name) := by
    rw [map_of_shares (fun _ _ => Invocation.rule_of_share) hl]
    exact names_invocations_sublist config set.rules
  exact regrouped_assemble config name hperm (hnames rules) (hnames rules') (hsub hfound) (hsub hfound')
    (ruleName_of_shares hfound)

/-- When the same rules are registered in another order, a pass ends with the same error of a parser, or comes to a
result with the same violations, in which the failures and the timings stand in groups in the new order of the
rules. There is one way for a pass to end without an error or a result, a check of options that breaks off, and
then it does so in both orders. -/
theorem result_of_reordered (schedule schedule' : Ledger → List Nat)
    (hrules : rules.rules.Perm rules'.rules) :
    (∃ cause, runWith schedule config rules parsers name source = .error (.error (.parse cause)) ∧
      runWith schedule' config rules' parsers name source = .error (.error (.parse cause))) ∨
    (∃ record record', runWith schedule config rules parsers name source = .ok record ∧
      runWith schedule' config rules' parsers name source = .ok record' ∧
      LintResult.Regrouped rules.rules rules'.rules record.result record'.result) ∨
    ∃ m m', runWith schedule config rules parsers name source = .error (.panicked m) ∧
      runWith schedule' config rules' parsers name source = .error (.panicked m') ∧
      Breaks (invocations config rules.rules) m ∧ Breaks (invocations config rules'.rules) m' := by
  have hinvs : (invocations config rules.rules).Perm (invocations config rules'.rules) := hrules.filterMap _
  have hneeded : neededParsers parsers (invocations config rules'.rules) =
      neededParsers parsers (invocations config rules.rules) := (neededParsers_eq_of_perm hinvs).symm
  cases hread : readAll name source (neededParsers parsers (invocations config rules.rules)) with
  | error e =>
    obtain ⟨_, _, _, cause, -, -, -, rfl⟩ := readAll_eq_error_iff.mp hread
    refine .inl ⟨cause, ?_, ?_⟩
    · exact (runWith_eq_error_iff schedule).mpr (alone_of_unread hread)
    · exact (runWith_eq_error_iff schedule').mpr (alone_of_unread (hneeded ▸ hread))
  | ok documents =>
    have hread' : readAll name source (neededParsers parsers (invocations config rules'.rules)) = .ok documents :=
      hneeded ▸ hread
    cases hfound : shares documents (physicalLines source).length (invocations config rules.rules) with
    | ok found =>
      obtain ⟨found', hfound', hperm⟩ := shares_of_perm hinvs hfound
      obtain ⟨record, hrun, hresult⟩ := runWith_of_alone schedule
        ((alone_eq_ok_iff ..).mpr ⟨documents, found, hread, hfound, rfl⟩)
      obtain ⟨record', hrun', hresult'⟩ := runWith_of_alone schedule'
        ((alone_eq_ok_iff ..).mpr ⟨documents, found', hread', hfound', rfl⟩)
      refine .inr (.inl ⟨record, record', hrun, hrun', ?_⟩)
      rw [hresult, hresult']
      exact regrouped_of_shares name hfound hfound' hperm
    | error stop =>
      cases hfound' : shares documents (physicalLines source).length (invocations config rules'.rules) with
      | ok found' =>
        obtain ⟨found, hfound'', -⟩ := shares_of_perm hinvs.symm hfound'
        rw [hfound] at hfound''
        cases hfound''
      | error stop' =>
        obtain ⟨m, rfl, hbreaks⟩ := shares_eq_error hfound
        obtain ⟨m', rfl, hbreaks'⟩ := shares_eq_error hfound'
        refine .inr (.inr ⟨m, m', ?_, ?_, hbreaks, hbreaks'⟩)
        · exact (runWith_eq_error_iff schedule).mpr (alone_of_stopped hread hfound)
        · exact (runWith_eq_error_iff schedule').mpr (alone_of_stopped hread' hfound')

end Runs

def reorderedRules : RuleSet :=
  ⟨[failingRule, panickingRule], by decide +kernel⟩

/-- The rule that fails and the one that breaks off find the same in both orders. -/
theorem result_of_reorderedRules :
    brokenRules.rules.Perm reorderedRules.rules ∧ ∃ record record',
      runWith Ledger.roundRobin .standard brokenRules Parser.builtin "a.txt" "x\ny" = .ok record ∧
      runWith Ledger.roundRobin .standard reorderedRules Parser.builtin "a.txt" "x\ny" = .ok record' ∧
      LintResult.Regrouped [panickingRule, failingRule] [failingRule, panickingRule] record.result
        record'.result := by
  have hperm : brokenRules.rules.Perm reorderedRules.rules := List.Perm.swap failingRule panickingRule []
  refine ⟨hperm, ?_⟩
  obtain ⟨record, hrun⟩ := exists_runWith_brokenRules
  rcases result_of_reordered Ledger.roundRobin Ledger.roundRobin hperm with
    ⟨_, herror, -⟩ | ⟨record₁, record', hrun₁, hrun', hregrouped⟩ | ⟨_, _, herror, -⟩
  · rw [hrun] at herror
    cases herror
  · exact ⟨record₁, record', hrun₁, hrun', hregrouped⟩
  · rw [hrun] at herror
    cases herror

/-- A rule whose check breaks off on any options, with a text. -/
def breakingRule : Rule where
  descriptor := ⟨["breaking"], "Breaks off while its options are checked", ["broken"], none, .text, false⟩
  validate _ := .panicked (some "boom")
  function := .sync fun _ => ⟨[], .finished⟩
  valid := by decide +kernel
  fits := rfl

def silentlyBreakingRule : Rule :=
  { breakingRule with
    descriptor := ⟨["silent"], "Breaks off without a text", ["broken"], none, .text, false⟩
    validate _ := .panicked none
    valid := by decide +kernel
    fits := rfl }

def doublyBreakingRules : RuleSet :=
  ⟨[breakingRule, silentlyBreakingRule], by decide +kernel⟩

def doublyBreakingReordered : RuleSet :=
  ⟨[silentlyBreakingRule, breakingRule], by decide +kernel⟩

/-- Where checks break off, neither order of the rules leads to an error of a parser or to a result, and a pass does
not even end the same way in both. -/
theorem stopped_in_both_orders :
    doublyBreakingRules.rules.Perm doublyBreakingReordered.rules ∧
    runWith Ledger.roundRobin .standard doublyBreakingRules Parser.builtin "a.txt" "x" =
      .error (.panicked (some "boom")) ∧
    runWith Ledger.roundRobin .standard doublyBreakingReordered Parser.builtin "a.txt" "x" =
      .error (.panicked none) ∧
    ¬ ∀ (schedule schedule' : Ledger → List Nat) (config : Config) (rules rules' : RuleSet) (parsers : List Parser)
      (name source : String), rules.rules.Perm rules'.rules →
      (∃ cause, runWith schedule config rules parsers name source = .error (.error (.parse cause)) ∧
        runWith schedule' config rules' parsers name source = .error (.error (.parse cause))) ∨
      ∃ record record', runWith schedule config rules parsers name source = .ok record ∧
        runWith schedule' config rules' parsers name source = .ok record' ∧
        LintResult.Regrouped rules.rules rules'.rules record.result record'.result := by
  have hperm : doublyBreakingRules.rules.Perm doublyBreakingReordered.rules :=
    List.Perm.swap silentlyBreakingRule breakingRule []
  have hrun : runWith Ledger.roundRobin .standard doublyBreakingRules Parser.builtin "a.txt" "x" =
      .error (.panicked (some "boom")) := by rfl
  have hrun' : runWith Ledger.roundRobin .standard doublyBreakingReordered Parser.builtin "a.txt" "x" =
      .error (.panicked none) := by rfl
  refine ⟨hperm, hrun, hrun', ?_⟩
  intro hclaim
  rcases hclaim Ledger.roundRobin Ledger.roundRobin .standard _ _ Parser.builtin "a.txt" "x" hperm with
    ⟨cause, herror, -⟩ | ⟨record, _, hok, -⟩
  · rw [hrun] at herror
    cases herror
  · rw [hrun] at hok
    cases hok

end Pass

end DocLint
