import DocLint.Proofs.Pass.Violations
import Mathlib.Data.List.Nodup

/-!
# Passes that drop duplicates

Duplicates are dropped before the violations are put in order. It comes to the same as dropping them from the
ordered violations, because the sort is stable and leaves violations with one rule, line and detail as they stood.
So switching duplicates off takes the later ones out of the result, and changes nothing else.
-/

namespace DocLint

set_option autoImplicit false

/-- The violations of which none before has the same rule, line and detail. -/
def firsts (all : List Violation) : List Violation :=
  (all.zipIdx.filter fun e => (all.take e.2).all fun w => w.key ≠ e.1.key).map Prod.fst

theorem firsts_append_singleton (all : List Violation) (v : Violation) :
    firsts (all ++ [v]) = firsts all ++ if v.key ∈ all.map Violation.key then [] else [v] := by
  have hinit : (all.zipIdx.filter fun e => ((all ++ [v]).take e.2).all fun w => w.key ≠ e.1.key) =
      all.zipIdx.filter fun e => (all.take e.2).all fun w => w.key ≠ e.1.key := by
    apply List.filter_congr
    intro e he
    have hlt : e.2 < all.length := (List.mem_zipIdx' he).1
    rw [List.take_append_of_le_length (Nat.le_of_lt hlt)]
  have hlast : ((all ++ [v]).take all.length).all (fun w => w.key ≠ v.key) =
      decide (v.key ∉ all.map Violation.key) := by
    rw [List.take_left, Bool.eq_iff_iff, List.all_eq_true, decide_eq_true_eq, List.mem_map, not_exists]
    simp
  rw [firsts, List.zipIdx_append, List.filter_append, hinit, List.map_append, firsts]
  congr 1
  simp only [List.zipIdx_singleton, Nat.zero_add, List.filter_singleton, hlast]
  by_cases hv : v.key ∈ all.map Violation.key
  · simp [hv]
  · simp [hv]

namespace Pass

section Dedup
variable {seen : List Violation.Key} {v : Violation} {rest all : List Violation}

theorem dedup_cons_of_mem (h : v.key ∈ seen) : dedup seen (v :: rest) = dedup seen rest := by
  rw [dedup, if_pos (List.contains_iff_mem.mpr h)]

theorem dedup_cons_of_not_mem (h : v.key ∉ seen) :
    dedup seen (v :: rest) = v :: dedup (v.key :: seen) rest := by
  rw [dedup, if_neg (mt List.contains_iff_mem.mp h)]

theorem dedup_append_singleton (seen : List Violation.Key) (all : List Violation) (v : Violation) :
    dedup seen (all ++ [v]) =
      dedup seen all ++ if v.key ∈ seen ∨ v.key ∈ all.map Violation.key then [] else [v] := by
  induction all generalizing seen with
  | nil =>
    by_cases hv : v.key ∈ seen
    · simp [dedup_cons_of_mem hv, hv]
    · simp [dedup_cons_of_not_mem hv, hv, dedup]
  | cons w rest ih =>
    have hcons : v.key ∈ (w :: rest).map Violation.key ↔ v.key = w.key ∨ v.key ∈ rest.map Violation.key := by
      rw [List.map_cons, List.mem_cons]
    rw [List.cons_append]
    by_cases hw : w.key ∈ seen
    · have hiff : v.key ∈ seen ∨ v.key ∈ (w :: rest).map Violation.key ↔
          v.key ∈ seen ∨ v.key ∈ rest.map Violation.key := by
        rw [hcons]
        constructor
        · rintro (h | h | h)
          · exact .inl h
          · exact .inl (h ▸ hw)
          · exact .inr h
        · tauto
      rw [dedup_cons_of_mem hw, dedup_cons_of_mem hw, ih]
      simp only [hiff]
    · have hiff : v.key ∈ seen ∨ v.key ∈ (w :: rest).map Violation.key ↔
          v.key ∈ w.key :: seen ∨ v.key ∈ rest.map Violation.key := by
        rw [hcons, List.mem_cons]
        tauto
      rw [dedup_cons_of_not_mem hw, dedup_cons_of_not_mem hw, ih, List.cons_append]
      simp only [hiff]

theorem dedup_eq_firsts (all : List Violation) : dedup [] all = firsts all := by
  induction all using List.reverseRecOn with
  | nil => rfl
  | append_singleton rest v ih =>
    rw [dedup_append_singleton, firsts_append_singleton, ih]
    simp only [List.not_mem_nil, false_or]

theorem dedup_sublist (seen : List Violation.Key) (all : List Violation) :
    (dedup seen all).Sublist all := by
  induction all generalizing seen with
  | nil => exact .slnil
  | cons v rest ih =>
    by_cases hv : v.key ∈ seen
    · rw [dedup_cons_of_mem hv]
      exact (ih seen).cons v
    · rw [dedup_cons_of_not_mem hv]
      exact (ih _).cons_cons v

theorem dedup_eq_nil (h : ∀ v ∈ all, v.key ∈ seen) : dedup seen all = [] := by
  induction all with
  | nil => rfl
  | cons v rest ih =>
    rw [dedup_cons_of_mem (h v List.mem_cons_self)]
    exact ih fun w hw => h w (List.mem_cons_of_mem _ hw)

/-- Of the violations with one key the first one is left. -/
theorem dedup_filter_key (all : List Violation) (key : Violation.Key) :
    ((dedup [] all).filter fun v => v.key = key) = (all.find? fun v => v.key = key).toList := by
  have hfilter : ((dedup [] all).filter fun v => v.key = key) = dedup [] (all.filter fun v => v.key = key) :=
    dedup_filter (q := fun k => k = key) (fun _ => rfl) all fun _ _ => Iff.rfl
  rw [hfilter, ← List.head?_filter]
  have hkeys : ∀ v ∈ all.filter fun v => v.key = key, v.key = key := by
    intro v hv
    simpa using (List.mem_filter.mp hv).2
  cases hfound : all.filter fun v => v.key = key with
  | nil => rfl
  | cons v rest =>
    rw [hfound] at hkeys
    have hrest : dedup [v.key] rest = [] := by
      apply dedup_eq_nil
      intro w hw
      rw [hkeys v List.mem_cons_self, hkeys w (List.mem_cons_of_mem _ hw)]
      exact List.mem_singleton_self key
    rw [dedup_cons_of_not_mem List.not_mem_nil, hrest]
    rfl

theorem nodup_dedup (seen : List Violation.Key) (all : List Violation) :
    ((dedup seen all).map Violation.key).Nodup ∧ ∀ k ∈ seen, k ∉ (dedup seen all).map Violation.key := by
  induction all generalizing seen with
  | nil => exact ⟨List.nodup_nil, fun _ _ => List.not_mem_nil⟩
  | cons v rest ih =>
    by_cases hv : v.key ∈ seen
    · rw [dedup_cons_of_mem hv]
      exact ih seen
    · obtain ⟨hnodup, hnew⟩ := ih (v.key :: seen)
      rw [dedup_cons_of_not_mem hv, List.map_cons]
      refine ⟨List.nodup_cons.mpr ⟨hnew _ List.mem_cons_self, hnodup⟩, ?_⟩
      intro k hk hmem
      rcases List.mem_cons.mp hmem with rfl | hmem
      · exact hv hk
      · exact hnew k (List.mem_cons_of_mem _ hk) hmem

end Dedup

/-- Dropping duplicates commutes with putting violations in order. -/
theorem mergeSort_dedup (all : List Violation) :
    (dedup [] all).mergeSort Violation.before = firsts (all.mergeSort Violation.before) := by
  have hsort := isStableSort_mergeSort _ Violation.before_iff all
  rw [← dedup_eq_firsts]
  apply mergeSort_eq_of_filter_eq Violation.sortKey Violation.before_iff
  · exact hsort.sorted.sublist (dedup_sublist [] _)
  · intro k
    have hclass (p : Violation → Bool) (hp : ∀ v, p v = decide (v.sortKey = k)) (l : List Violation) :
        (dedup [] l).filter p = dedup [] (l.filter p) :=
      -- where a violation stands is a matter of its key
      dedup_filter (q := fun key => toLex (key.2.1, Text.bytes key.1) = k) hp l fun _ _ => Iff.rfl
    rw [hclass, hclass, hsort.stable k]
    all_goals
      intro v
      exact decide_eq_decide.mpr Iff.rfl

/-- What is left of the violations with one key is the one that came first before they were put in order. -/
theorem arrange_filter_key {config : Config} (hdrop : config.deduplicate = true) (all : List Violation)
    (key : Violation.Key) :
    ((arrange config all).filter fun v => v.key = key) = (all.find? fun v => v.key = key).toList := by
  have hfilter : ((arrange config all).filter fun v => v.key = key) =
      arrange config (all.filter fun v => v.key = key) :=
    arrange_filter (q := fun k => k = key) (fun _ => rfl) config all
  have hdedup : dedup [] (all.filter fun v => v.key = key) = (dedup [] all).filter fun v => v.key = key :=
    (dedup_filter (q := fun k => k = key) (fun _ => rfl) all fun _ _ => Iff.rfl).symm
  rw [hfilter, arrange, hdrop, if_pos rfl, hdedup, dedup_filter_key]
  cases all.find? fun v => v.key = key with
  | none => exact List.mergeSort_nil
  | some v => exact List.mergeSort_singleton v

theorem nodup_arrange {config : Config} (hdrop : config.deduplicate = true) (all : List Violation) :
    ((arrange config all).map Violation.key).Nodup := by
  have hperm := (isStableSort_arrange config all).perm
  rw [hdrop, if_pos rfl] at hperm
  rw [(hperm.map Violation.key).nodup_iff]
  exact (nodup_dedup [] all).1

theorem assemble_deduplicated (config : Config) (name : String) (found : List Share) :
    assemble { config with deduplicate := true } name found =
      { assemble { config with deduplicate := false } name found with
        violations := firsts (assemble { config with deduplicate := false } name found).violations } := by
  have harrange : arrange { config with deduplicate := true } (found.flatMap Share.violations) =
      firsts (arrange { config with deduplicate := false } (found.flatMap Share.violations)) :=
    mergeSort_dedup (found.flatMap Share.violations)
  rw [assemble, harrange]
  rfl

section Result
variable (config : Config) (rules : RuleSet) (parsers : List Parser) (name source : String)

theorem alone_deduplicated :
    alone { config with deduplicate := true } rules parsers name source =
      (alone { config with deduplicate := false } rules parsers name source).map (fun result =>
        { result with violations := firsts result.violations }) := by
  have hinvs (drop : Bool) : invocations { config with deduplicate := drop } rules.rules =
      invocations config rules.rules := rfl
  simp only [alone, hinvs]
  cases readAll name source (neededParsers parsers (invocations config rules.rules)) with
  | error e => rfl
  | ok documents =>
    simp only [Except.mapError, bind, Except.bind]
    cases shares documents (physicalLines source).length (invocations config rules.rules) with
    | error stop => rfl
    | ok found => exact congrArg Except.ok (assemble_deduplicated config name found)

/-- A pass that drops duplicates comes to what the pass that keeps them comes to, but of the violations with one
rule, line and detail the first is left: that is the one that was reported first. -/
theorem result_without_duplicates (schedule schedule' : Ledger → List Nat) :
    (runWith schedule { config with deduplicate := true } rules parsers name source).map PassRecord.result =
      (runWith schedule' { config with deduplicate := false } rules parsers name source).map (fun record =>
        { record.result with violations := firsts record.result.violations }) ∧
    ∀ record, runWith schedule { config with deduplicate := true } rules parsers name source = .ok record →
      (record.result.violations.map Violation.key).Nodup ∧
      ∃ documents,
        readAll name source (neededParsers parsers (invocations config rules.rules)) = .ok documents ∧
        ∀ key, (record.result.violations.filter fun v => v.key = key) =
          (((invocations config rules.rules).flatMap
            (Invocation.found documents (physicalLines source).length)).find? fun v => v.key = key).toList := by
  constructor
  · have hkept := runWith_result { config with deduplicate := false } rules parsers name source schedule'
    rw [runWith_result, alone_deduplicated, ← hkept]
    cases runWith schedule' { config with deduplicate := false } rules parsers name source with
    | error stop => rfl
    | ok record => rfl
  · intro record hrun
    obtain ⟨documents, found, hread, hfound, hresult⟩ := (alone_eq_ok_iff ..).mp (alone_of_runWith hrun)
    have hviolations : found.flatMap Share.violations = (invocations config rules.rules).flatMap
        (Invocation.found documents (physicalLines source).length) := by
      rw [List.flatMap_def, List.flatMap_def,
        map_of_shares (fun _ _ => Invocation.violations_of_share) hfound]
      rfl
    rw [← hresult, assemble, hviolations]
    exact ⟨nodup_arrange rfl _, documents, hread, fun key => arrange_filter_key rfl _ key⟩

end Result

/-- A rule that reports one line three times: twice without a detail, and once with an empty one. -/
def repeatingRule : Rule where
  descriptor := ⟨["repeating"], "Reports a line again", ["broken"], none, .text, false⟩
  validate _ := .accepted
  function := .sync fun _ =>
    .ofReports [⟨1, none, some "first"⟩, ⟨1, some "", none⟩, ⟨1, none, some "second"⟩]
  valid := by decide +kernel
  fits := rfl

def repeatingRules : RuleSet :=
  ⟨[repeatingRule], by decide +kernel⟩

theorem result_of_repeatingRule :
    ∃ record,
      runWith Ledger.roundRobin { Config.standard with deduplicate := true } repeatingRules Parser.builtin
        "a.txt" "x" = .ok record ∧
      (record.result.violations.map Violation.key).Nodup ∧
      (record.result.violations.filter fun v => v.key = ("repeating", 1, none)) =
        [Invocation.violation ⟨repeatingRule, .standard⟩ ⟨1, none, some "first"⟩] ∧
      (record.result.violations.filter fun v => v.key = ("repeating", 1, some "")) =
        [Invocation.violation ⟨repeatingRule, .standard⟩ ⟨1, some "", none⟩] := by
  have hread : readAll "a.txt" "x" (neededParsers Parser.builtin (invocations .standard repeatingRules.rules)) =
      .ok [.ofSource "a.txt" "x" ⟨.text, PlainText.tokens "x"⟩] := by rfl
  have hends : (runWith Ledger.roundRobin { Config.standard with deduplicate := true } repeatingRules
      Parser.builtin "a.txt" "x").isOk := by
    decide +kernel
  cases hrun : runWith Ledger.roundRobin { Config.standard with deduplicate := true } repeatingRules
      Parser.builtin "a.txt" "x" with
  | error stop => simp [hrun, Except.isOk, Except.toBool] at hends
  | ok record =>
    obtain ⟨hnodup, documents, hdocuments, hfirst⟩ := (result_without_duplicates .standard repeatingRules
      Parser.builtin "a.txt" "x" Ledger.roundRobin Ledger.roundRobin).2 record hrun
    rw [hread] at hdocuments
    obtain rfl := Except.ok.inj hdocuments
    exact ⟨record, rfl, hnodup, hfirst _, hfirst _⟩

end Pass

end DocLint
