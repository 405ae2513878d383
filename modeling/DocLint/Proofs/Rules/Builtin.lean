import DocLint.Command.Run
import DocLint.Proofs.Pass.Entries
import DocLint.Proofs.Registry
import DocLint.Proofs.Rules.Verification

/-!
# The rules of the library

The rules of the library can always be made, and their checks of options never break off. Only one of them calls the
analyzer at all, and of the configurations it asks for none but that of the document.
-/

namespace DocLint

set_option autoImplicit false

theorem Rule.define_eq_ok {descriptor : Descriptor} (validate : Json → Verdict) {function : RuleFunction}
    (hvalid : descriptor.check = .ok ()) (hfits : descriptor.asynchronous = function.isAsync) :
    Rule.define descriptor validate function = .ok ⟨descriptor, validate, function, hvalid, hfits⟩ := by
  unfold Rule.define
  split
  · next e herror =>
    rw [hvalid] at herror
    cases herror
  · rw [dif_pos hfits]

/-- The rules of the library, in the order of their registration. -/
def builtinRules (analyzer : Analyzer) : List Rule :=
  [⟨EveryNLines.descriptor, EveryNLines.validate, .sync EveryNLines.run, rfl, rfl⟩,
    ⟨LintJavascript.descriptor, LintJavascript.validate,
      .async fun input => .started [] (LintJavascript.runWith [] analyzer input), rfl, rfl⟩]

theorem exists_builtin (analyzer : Analyzer) :
    ∃ set, RuleSet.builtin analyzer = .ok set ∧ set.rules = builtinRules analyzer := by
  unfold RuleSet.builtin EveryNLines.rule LintJavascript.rule
  rw [Rule.define_eq_ok EveryNLines.validate rfl rfl, Rule.define_eq_ok LintJavascript.validate rfl rfl]
  simp only [bind, Except.bind, RuleSet.registerAll]
  rw [RuleSet.register_eq_ok (by rfl)]
  simp only []
  rw [RuleSet.register_eq_ok (by rfl)]
  exact ⟨_, rfl, rfl⟩

/-- The check of the options of a rule of the library never breaks off. -/
theorem Pass.not_breaks_builtin {analyzer : Analyzer} {rules : RuleSet} (hrules : RuleSet.builtin analyzer = .ok rules)
    (config : Config) (m : Option String) : ¬ Breaks (invocations config rules.rules) m := by
  obtain ⟨set, hset, hrulesOf⟩ := exists_builtin analyzer
  cases hset.symm.trans hrules
  rintro ⟨⟨r, settings⟩, hinv, hbreaks⟩
  obtain ⟨hr, -⟩ := mem_invocations.mp hinv
  rw [hrulesOf] at hr
  rcases List.mem_pair.mp hr with rfl | rfl
  · change EveryNLines.validate settings.options = _ at hbreaks
    cases hoptions : settings.options <;> rw [hoptions] at hbreaks <;> cases hbreaks
  · change LintJavascript.validate settings.options = _ at hbreaks
    rw [LintJavascript.validate] at hbreaks
    split at hbreaks <;> cases hbreaks

/-- The configuration of a document is the only one that the rule asks for. -/
theorem LintJavascript.calls_runWith (order : List Nat) (analyzer : Analyzer) (input : RuleInput)
    {c : AnalyzerCall} (hc : c ∈ (runWith order analyzer input).calls) :
    c = .resolve input.document.name ∨ ∃ snippet config, c = .verify snippet config := by
  unfold runWith at hc
  cases hoptions : Options.ofJson input.options with
  | error m => simp [hoptions, Trace.calls] at hc
  | ok options =>
    simp only [hoptions] at hc
    cases hfound : fences options input.document with
    | nil => simp [hfound, Trace.calls] at hc
    | cons fence rest =>
      simp only [hfound] at hc
      cases hresolve : analyzer.resolve input.document.name with
      | error e =>
        simp only [hresolve, Trace.calls, Trace.callsOf_call, Trace.callsOf_pause, Trace.callsOf_nil,
          List.mem_singleton] at hc
        exact .inl hc
      | ok config =>
        simp only [hresolve, Trace.calls, callsOf_asked, calls_verifyAll, List.mem_cons] at hc
        rcases hc with hc | hc
        · exact .inl hc
        · obtain ⟨t, -, rfl⟩ := List.mem_map.mp hc
          exact .inr ⟨_, _, rfl⟩

/-- It asks for it as soon as there is something to verify. -/
theorem LintJavascript.resolve_mem_calls (order : List Nat) (analyzer : Analyzer) {document : Document}
    {v : Json} {options : Options} (hoptions : Options.ofJson v = .ok options)
    (hfences : fences options document ≠ []) :
    .resolve document.name ∈ (runWith order analyzer ⟨document, v⟩).calls := by
  obtain ⟨fence, rest, hfound⟩ := List.exists_cons_of_ne_nil hfences
  unfold runWith
  simp only [hoptions, hfound]
  cases analyzer.resolve document.name with
  | error e => exact List.mem_cons_self
  | ok config => exact List.mem_cons_self

/-- The other rule of the library makes no calls. -/
theorem EveryNLines.calls_run (input : RuleInput) : (EveryNLines.run input).calls = [] :=
  LintJavascript.callsOf_map_report _

theorem EveryNLines.calls_eq_nil (documents : List Document) {inv : Invocation}
    (hfunction : inv.rule.function = .sync EveryNLines.run) : inv.calls documents = [] := by
  unfold Invocation.calls Rule.trace
  rw [hfunction]
  cases documents.find? fun d => d.parser = inv.parser with
  | none => rfl
  | some document =>
    cases inv.rule.validate inv.settings.options with
    | accepted => exact EveryNLines.calls_run _
    | rejected e => rfl
    | panicked m => rfl

theorem calls_of_builtinRules {analyzer : Analyzer} {rule : Rule} (hrule : rule ∈ builtinRules analyzer)
    {input : RuleInput} {c : AnalyzerCall} (hc : c ∈ (rule.trace input).calls) :
    c = .resolve input.document.name ∨ ∃ snippet config, c = .verify snippet config := by
  rcases List.mem_pair.mp hrule with rfl | rfl
  · rw [Rule.trace, EveryNLines.calls_run] at hc
    exact absurd hc List.not_mem_nil
  · exact LintJavascript.calls_runWith [] analyzer input hc

end DocLint
