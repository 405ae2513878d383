import DocLint.Proofs.LineIndex
import DocLint.Proofs.Pass.Entries
import DocLint.Proofs.Rules.Builtin

/-!
# Every n-th line

The rule `every-n-lines` finds the lines whose numbers its period divides, and no others. The tokens of the document
have no part in this: there is a record for every line.
-/

namespace DocLint.EveryNLines

set_option autoImplicit false

/-- Options that give no period: there is no `n`, or it is no number, or not above zero. -/
inductive NoPeriod : Option Json → Prop where
  | absent : NoPeriod none
  | noNumber {v : Json} : (∀ n, v ≠ .number n) → NoPeriod (some v)
  | integer {i : Int} : i ≤ 0 → NoPeriod (some (.number (.integer i)))
  | negative {x : Decimal.Binary64} : x.negative = true → NoPeriod (some (.number (.double x)))
  | zero {x : Decimal.Binary64} : x.mantissa = 0 → NoPeriod (some (.number (.double x)))

/-- A number is a period under some options. -/
structure IsPeriod (options : Json) (n : Nat) : Prop where
  pos : 1 ≤ n
  given : ∀ i : Int, options.member? "n" = some (.number (.integer i)) → 0 < i → (n : Int) = i
  otherwise : NoPeriod (options.member? "n") → n = 2

section Period

theorem pos_of_periodOf? {number : JsonNumber} {n : Nat} (h : periodOf? number = some n) : 1 ≤ n := by
  cases number with
  | integer i =>
    obtain ⟨hi, hn⟩ := Option.ite_none_right_eq_some.mp h
    cases hn
    omega
  | double x =>
    obtain ⟨-, hbind⟩ := Option.ite_none_left_eq_some.mp h
    obtain ⟨m, -, hcapped⟩ := Option.bind_eq_some_iff.mp hbind
    obtain ⟨hm, hn⟩ := Option.ite_none_left_eq_some.mp hcapped
    cases hn
    have hmax : 1 ≤ maxPeriod := by decide
    omega

theorem periodOf?_of_zero {x : Decimal.Binary64} (h : x.mantissa = 0) : periodOf? (.double x) = none := by
  have hnum : x.num = 0 := by rw [Decimal.Binary64.num, h, Nat.zero_mul]
  have hzero : x.toNat? = some 0 := by rw [Decimal.Binary64.toNat?, hnum, Nat.zero_mod, if_pos rfl, Nat.zero_div]
  rw [periodOf?, hzero]
  split <;> rfl

theorem period_of_noPeriod {options : Json} (h : NoPeriod (options.member? "n")) :
    period options = defaultPeriod := by
  rw [period]
  generalize options.member? "n" = given at h
  cases h with
  | absent => rfl
  | @noNumber v hv =>
    cases v with
    | number n => exact absurd rfl (hv n)
    | null | bool | string | array | object => rfl
  | integer hi => simp only [periodOf?, if_neg (not_lt.mpr hi), Option.getD_none]
  | negative hx => simp only [periodOf?, if_pos hx, Option.getD_none]
  | zero hx => simp only [periodOf?_of_zero hx, Option.getD_none]

theorem isPeriod_period (options : Json) : IsPeriod options (period options) := by
  refine ⟨?pos, ?given, period_of_noPeriod⟩
  case pos =>
    unfold period
    split
    · next number _ =>
      cases hn : periodOf? number with
      | none => decide
      | some n => exact pos_of_periodOf? hn
    · decide
  case given =>
    intro i hi hpos
    simp only [period, hi, periodOf?, if_pos hpos, Option.getD_some]
    omega

end Period

/-- The numbers of the lines, of so many, that are multiples of `n`. -/
def multiples (n count : Nat) : List Nat :=
  (List.range' 1 count).filter fun l => n ∣ l

section Reports
variable (n : Nat)

/-- A line is reported for its number alone, whatever block it is in. -/
theorem reports_eq (document : Document) :
    reports n document = (multiples n document.lineCount).map reportOf := by
  have hrecords : document.index.records.length = document.lineCount := by
    rw [Document.index, LineIndex.records_build, List.length_mapIdx]
    rfl
  have hvisits (g : Nat → Option Report) : (document.index.mapRecords fun _ i => g (i + 1)) =
      (List.range' 1 document.lineCount).map g := by
    apply List.ext_getElem
    · rw [LineIndex.mapRecords, List.length_mapIdx, hrecords, List.length_map, List.length_range']
    · intro i hi hi'
      simp only [LineIndex.mapRecords, List.getElem_mapIdx, List.getElem_map, List.getElem_range']
      congr 1
      omega
  have hdvd (i : Nat) : ((i + 1) % n = 0) = (n ∣ i + 1) := propext Nat.dvd_iff_mod_eq_zero.symm
  simp only [reports, hdvd]
  rw [hvisits fun l => if n ∣ l then some (reportOf l) else none, multiples, List.filterMap_map,
    ← List.filterMap_eq_map, List.filterMap_filter]
  simp only [decide_eq_true_eq]
  rfl

theorem pairwise_multiples (count : Nat) : (multiples n count).Pairwise (· < ·) :=
  (List.pairwise_lt_range' ..).filter _

theorem mem_multiples {n count l : Nat} : l ∈ multiples n count ↔ (1 ≤ l ∧ l ≤ count) ∧ n ∣ l := by
  rw [multiples, List.mem_filter, List.mem_range'_1, decide_eq_true_eq]
  omega

end Reports

theorem parts_of_rule {r : Rule} (h : rule = .ok r) :
    r.descriptor = descriptor ∧ r.validate = validate ∧ ∀ input, r.trace input = run input := by
  rw [rule, Rule.define_eq_ok validate rfl rfl] at h
  cases h
  exact ⟨rfl, rfl, fun _ => rfl⟩

theorem parser_of_rule {r : Rule} (h : rule = .ok r) : r.descriptor.parser = Parser.markdown.kind := by
  rw [(parts_of_rule h).1]
  rfl

section Becoming
variable {r : Rule} {settings : Settings} {name source : String} {s : Share}

theorem becomes_of_accepted (hrule : rule = .ok r)
    (hoptions : settings.options = .null ∨ ∃ members, settings.options = .object members)
    (h : Invocation.Becomes Parser.builtin name source ⟨r, settings⟩ s) :
    s.violations = (multiples (period settings.options) (physicalLines source).length).map
        (fun l => Invocation.violation ⟨r, settings⟩ (reportOf l)) ∧ s.errors = [] := by
  obtain ⟨-, hvalidate, htraces⟩ := parts_of_rule hrule
  have haccepted : r.validate settings.options = .accepted := by
    rcases hoptions with h | ⟨members, h⟩ <;> rw [hvalidate, h] <;> rfl
  cases h with
  | unavailable hparser => exact absurd (parser_of_rule hrule).symm (hparser Parser.markdown List.mem_cons_self)
  | rejected _ _ hrejected => exact absurd (haccepted.symm.trans hrejected) nofun
  | @called p stream t _ _ _ htrace =>
    have hlines : (Document.ofSource name source stream).lineCount = (physicalLines source).length :=
      List.length_map _
    have hreports : t.reports = (multiples (period settings.options) (physicalLines source).length).map reportOf := by
      rw [← htrace, htraces, ← hlines, ← reports_eq]
      exact Trace.reportsOf_map_report _
    have houtcome : t.outcome.error? = none := by
      rw [← htrace, htraces]
      rfl
    have hwithin : ∀ x ∈ t.reports, x.isWithin (physicalLines source).length = true := by
      rw [hreports]
      intro x hx
      obtain ⟨l, hl, rfl⟩ := List.mem_map.mp hx
      obtain ⟨⟨hpos, hle⟩, -⟩ := mem_multiples.mp hl
      rw [Report.isWithin, Bool.and_eq_true, decide_eq_true_eq, decide_eq_true_eq]
      exact ⟨hpos, hle⟩
    obtain ⟨hviolations, herrors⟩ := @Pass.ran_of_within ⟨r, settings⟩ _ t hwithin houtcome
    refine ⟨hviolations.trans ?_, herrors⟩
    rw [hreports, List.map_map]
    rfl

theorem becomes_of_rejected (hrule : rule = .ok r) (hnull : settings.options ≠ .null)
    (hobject : ∀ members, settings.options ≠ .object members)
    (h : Invocation.Becomes Parser.builtin name source ⟨r, settings⟩ s) :
    s.violations = [] ∧ s.errors = [.config ("expected an options object, found " ++ settings.options.compact)] := by
  obtain ⟨-, hvalidate, -⟩ := parts_of_rule hrule
  have hrejected : r.validate settings.options =
      .rejected (.config ("expected an options object, found " ++ settings.options.compact)) := by
    rw [hvalidate]
    cases hoptions : settings.options with
    | null => exact absurd hoptions hnull
    | object members => exact absurd hoptions (hobject members)
    | bool | number | string | array => rfl
  cases h with
  | unavailable hparser => exact absurd (parser_of_rule hrule).symm (hparser Parser.markdown List.mem_cons_self)
  | rejected _ _ hverdict =>
    cases hrejected.symm.trans hverdict
    exact ⟨rfl, rfl⟩
  | called _ _ hverdict _ => exact absurd (hrejected.symm.trans hverdict) nofun

end Becoming

/-- The violations and failures of the rule under some settings, in a document with so many lines. -/
inductive Finds (settings : Settings) (count : Nat) : List Violation → List RuleFailure → Prop where
  /-- Without options or with an object: one violation for each line whose number the period divides. -/
  | lines {vs : List Violation}
      (hoptions : settings.options = .null ∨ ∃ members, settings.options = .object members)
      (hlines : vs.map Violation.line = (List.range' 1 count).filter fun l => period settings.options ∣ l)
      (hdetail : ∀ v ∈ vs, v.detail = some ("Line number " ++ toString v.line))
      (hseverity : ∀ v ∈ vs, v.severity = settings.severity) : Finds settings count vs []
  /-- With any other value: a failure. -/
  | malformed (hnull : settings.options ≠ .null) (hobject : ∀ members, settings.options ≠ .object members) :
      Finds settings count []
        [⟨"every-n-lines", .config ("expected an options object, found " ++ settings.options.compact)⟩]

section Passes
variable {config : Config} {rules : RuleSet} {name source : String} {r : Rule} {settings : Settings}

theorem finds_of_runWith {schedule : Ledger → List Nat} {record : PassRecord} (hrule : rule = .ok r)
    (hr : r ∈ rules.rules) (hsettings : config.resolve descriptor = some settings)
    (hrun : Pass.runWith schedule config rules Parser.builtin name source = .ok record) :
    Finds settings (physicalLines source).length (record.result.violationsOf r) (record.result.failuresOf r) := by
  obtain ⟨hdescriptor, -, -⟩ := parts_of_rule hrule
  obtain ⟨s, hbecomes, hviolations, hfailures⟩ := Pass.entries_of_runWith
    (fun _ => Parser.faithful_of_mem_builtin) hrun hr (hdescriptor ▸ hsettings)
  by_cases hoptions : settings.options = .null ∨ ∃ members, settings.options = .object members
  · obtain ⟨hfound, herrors⟩ := becomes_of_accepted hrule hoptions hbecomes
    have hascending : s.violations.Pairwise fun v w => v.line < w.line := by
      rw [hfound, List.pairwise_map]
      exact pairwise_multiples _ _
    rw [Pass.arrange_of_ascending config hascending, hfound] at hviolations
    rw [hviolations, hfailures, Share.failures, herrors]
    apply Finds.lines hoptions
    · rw [List.map_map]
      exact List.map_id _
    · intro v hv
      obtain ⟨l, -, rfl⟩ := List.mem_map.mp hv
      rfl
    · intro v hv
      obtain ⟨l, -, rfl⟩ := List.mem_map.mp hv
      rfl
  · obtain ⟨hnull, hobject⟩ := not_or.mp hoptions
    rw [not_exists] at hobject
    obtain ⟨hfound, herrors⟩ := becomes_of_rejected hrule hnull hobject hbecomes
    have hname : s.rule = "every-n-lines" := by
      have hnames : s.rule = r.name := by cases hbecomes <;> rfl
      rw [hnames, Rule.name, hdescriptor]
      rfl
    rw [hviolations, hfound, Pass.arrange_of_ascending config .nil, hfailures, Share.failures, herrors, hname]
    exact .malformed hnull hobject

/-- In a document without NUL the rule finds the lines whose numbers its period divides, one violation for each of
them in ascending order, and it does not fail. The period is the option `n` if that is a positive integer, two if
nothing else is given, and never zero. Options that are no object are an error of the configuration, and nothing is
found then. A pass can only be broken off by a check of the options of another rule; none of the library does so. -/
theorem every_nth_line (schedule : Ledger → List Nat) (name : String) (hnul : '\x00' ∉ source.toList)
    (hrule : rule = .ok r) (hr : r ∈ rules.rules) (hsettings : config.resolve descriptor = some settings) :
    ((∃ record, Pass.runWith schedule config rules Parser.builtin name source = .ok record ∧
        Finds settings (physicalLines source).length (record.result.violationsOf r) (record.result.failuresOf r)) ∨
      ∃ m, Pass.runWith schedule config rules Parser.builtin name source = .error (.panicked m) ∧
        Pass.Breaks (Pass.invocations config rules.rules) m) ∧
    (∀ analyzer, RuleSet.builtin analyzer = .ok rules →
      ∀ m, ¬ Pass.Breaks (Pass.invocations config rules.rules) m) ∧
    IsPeriod settings.options (period settings.options) := by
  refine ⟨?_, fun analyzer hrules => Pass.not_breaks_builtin hrules config, isPeriod_period settings.options⟩
  rcases Pass.runWith_or_breaks schedule config rules name hnul with ⟨record, hrun⟩ | hbreaks
  · exact .inl ⟨record, hrun, finds_of_runWith hrule hr hsettings hrun⟩
  · exact .inr hbreaks

/-- Every second line, under a key in another spelling. -/
def everySecondLine : Config :=
  { Config.standard with
    options := [("Every-N-Lines", .options (.object [("n", .number (.integer 2))]))]
    deduplicate := true }

def silentAnalyzer : Analyzer :=
  ⟨fun _ => .ok .empty, fun _ _ => .ok []⟩

theorem every_nth_line_of_fiveLines :
    '\x00' ∉ "# a\r\n\n- b\n\rc".toList ∧ ∃ r rules settings record, rule = .ok r ∧
      RuleSet.builtin silentAnalyzer = .ok rules ∧ r ∈ rules.rules ∧
      everySecondLine.resolve descriptor = some settings ∧
      Pass.run everySecondLine rules Parser.builtin "a.md" "# a\r\n\n- b\n\rc" = .ok record ∧
      (record.result.violationsOf r).map Violation.line = [2, 4] ∧ record.result.failuresOf r = [] := by
  have hnul : '\x00' ∉ "# a\r\n\n- b\n\rc".toList := by decide
  have hrule : rule = .ok ⟨descriptor, validate, .sync run, rfl, rfl⟩ := Rule.define_eq_ok validate rfl rfl
  obtain ⟨rules, hbuiltin, hrules⟩ := exists_builtin silentAnalyzer
  have hr : ⟨descriptor, validate, .sync run, rfl, rfl⟩ ∈ rules.rules := by
    rw [hrules]
    exact List.mem_cons_self
  have hsettings : everySecondLine.resolve descriptor =
      some ⟨.error, .object [("n", .number (.integer 2))]⟩ := rfl
  obtain ⟨hresult, hnone, -⟩ := every_nth_line Ledger.roundRobin "a.md" hnul hrule hr hsettings
  rcases hresult with ⟨record, hrun, hfinds⟩ | ⟨m, -, hbreaks⟩
  · refine ⟨hnul, _, rules, _, record, hrule, hbuiltin, hr, hsettings, hrun, ?_⟩
    generalize record.result.violationsOf _ = vs, record.result.failuresOf _ = failures at hfinds
    cases hfinds with
    | lines _ hlines _ _ => exact ⟨hlines, rfl⟩
    | malformed _ hobject => exact absurd rfl (hobject _)
  · exact absurd hbreaks (hnone silentAnalyzer hbuiltin m)

end Passes

end DocLint.EveryNLines
