import DocLint.Proofs.Rules.Builtin

/-!
# Options that `lint-javascript` accepts

Options are accepted if all that they set can be decoded. With any other value the rule is refused, and the analyzer
is not asked for anything.
-/

namespace DocLint.LintJavascript

set_option autoImplicit false

theorem validate_eq_accepted_iff {v : Json} :
    validate v = .accepted ↔ v = .null ∨ IsOptionsObject v ∨ IsOptionsList v := by
  rw [← Options.exists_ofJson_iff, validate]
  cases Options.ofJson v <;> simp

theorem exists_rejected {v : Json} (h : ¬ (v = .null ∨ IsOptionsObject v ∨ IsOptionsList v)) :
    ∃ m, validate v = .rejected (.config m) := by
  rw [← Options.exists_ofJson_iff] at h
  rw [validate]
  cases hoptions : Options.ofJson v with
  | ok o => exact absurd ⟨o, hoptions⟩ h
  | error m => exact ⟨m, rfl⟩

theorem rule_eq_ok (analyzer : Analyzer) :
    rule analyzer =
      .ok ⟨descriptor, validate, .async fun input => .started [] (runWith [] analyzer input), rfl, rfl⟩ :=
  Rule.define_eq_ok validate rfl rfl

/-- The rule accepts the absence of options, an object of options and an array of the first of them, and nothing
else. With any other value calling it neither stops the pass nor leaves anything to do, and in every result it has
one failure, no violation and no timing, while all calls to the analyzer are those of other rules. -/
theorem options_accepted_iff {analyzer : Analyzer} {r : Rule} (hrule : rule analyzer = .ok r) (v : Json) :
    (r.validate v = .accepted ↔ v = .null ∨ IsOptionsObject v ∨ IsOptionsList v) ∧
    (¬ (v = .null ∨ IsOptionsObject v ∨ IsOptionsList v) →
      ∃ m, r.validate v = .rejected (.config m) ∧
        (∀ documents n l severity, ∃ l', Pass.call documents n l ⟨r, severity, v⟩ = .ok l' ∧
          l'.calls = l.calls ∧ l'.pending = l.pending) ∧
        ∀ schedule config rules parsers name source record severity, (∀ p ∈ parsers, p.Faithful) →
          (∃ p ∈ parsers, p.kind = .markdown) → r ∈ rules.rules →
          config.resolve r.descriptor = some ⟨severity, v⟩ →
          Pass.runWith schedule config rules parsers name source = .ok record →
          record.result.failuresOf r = [⟨"lint-javascript", .config m⟩] ∧
            record.result.violationsOf r = [] ∧ "lint-javascript" ∉ record.result.timings ∧
            ∃ documents,
              Pass.readAll name source (Pass.neededParsers parsers (Pass.invocations config rules.rules)) =
                .ok documents ∧
              record.calls.Perm (((Pass.invocations config rules.rules).filter fun inv =>
                inv.rule.name ≠ "lint-javascript").flatMap (Invocation.calls documents))) := by
  obtain rfl := Except.ok.inj ((rule_eq_ok analyzer).symm.trans hrule)
  refine ⟨validate_eq_accepted_iff, ?_⟩
  intro hother
  obtain ⟨m, hverdict⟩ := exists_rejected hother
  refine ⟨m, hverdict, ?_, ?_⟩
  · intro documents n l severity
    exact Pass.call_of_rejected documents n l hverdict
  · intro schedule config rules parsers name source record severity hfaithful hparser hmem hsettings hrun
    exact Pass.entries_of_rejected hfaithful hrun hmem hsettings hparser hverdict

/-- An empty array is accepted though it is no object. -/
theorem accepts_empty_array :
    validate (.array []) = .accepted ∧
      ¬ ∀ v, validate v = .accepted ↔ v = .null ∨ IsOptionsObject v := by
  have haccepted : validate (.array []) = .accepted := by rfl
  refine ⟨haccepted, ?_⟩
  intro hclaim
  rcases (hclaim _).mp haccepted with h | ⟨members, h, -⟩
  · cases h
  · cases h

/-- A configuration with a text where there should be an array of languages. -/
def languagesAsText : Config :=
  { Config.standard with options := [("lint-javascript", .options (.object [("languages", .string "js")]))] }

theorem options_of_languagesAsText :
    ∃ r rules record, rule findsX = .ok r ∧ RuleSet.builtin findsX = .ok rules ∧ r ∈ rules.rules ∧
      languagesAsText.resolve r.descriptor = some ⟨.error, .object [("languages", .string "js")]⟩ ∧
      Pass.runWith Ledger.roundRobin languagesAsText rules Parser.builtin "a.md" "```js\nx\n```" = .ok record ∧
      record.result.failuresOf r =
        [⟨"lint-javascript", .config "invalid type: string \"js\", expected a sequence"⟩] ∧
      record.result.violationsOf r = [] ∧ record.calls = [] := by
  obtain ⟨rules, hbuiltin, hrules⟩ := exists_builtin findsX
  obtain ⟨record, hrun⟩ : ∃ record, Pass.runWith Ledger.roundRobin languagesAsText rules Parser.builtin "a.md"
      "```js\nx\n```" = .ok record := by
    have hnul : '\x00' ∉ "```js\nx\n```".toList := by decide
    rcases Pass.runWith_or_breaks Ledger.roundRobin languagesAsText rules "a.md" hnul with hrun | ⟨m, -, hbreaks⟩
    · exact hrun
    · exact absurd hbreaks (Pass.not_breaks_builtin hbuiltin languagesAsText m)
  have hother : ¬ (Json.object [("languages", .string "js")] = .null ∨
      IsOptionsObject (.object [("languages", .string "js")]) ∨
      IsOptionsList (.object [("languages", .string "js")])) := by
    rw [← validate_eq_accepted_iff]
    decide +kernel
  obtain ⟨r, hrule, hmem⟩ : ∃ r, rule findsX = .ok r ∧ r ∈ rules.rules := by
    rw [hrules]
    exact ⟨_, rule_eq_ok findsX, List.mem_cons_of_mem _ (List.mem_singleton_self _)⟩
  obtain ⟨-, hrejects⟩ := options_accepted_iff hrule (.object [("languages", .string "js")])
  obtain ⟨m, hverdict, -, hpasses⟩ := hrejects hother
  obtain rfl := Except.ok.inj ((rule_eq_ok findsX).symm.trans hrule)
  obtain rfl : "invalid type: string \"js\", expected a sequence" = m :=
    RuleError.config.inj (Verdict.rejected.inj hverdict)
  obtain ⟨hfailures, hviolations, -, documents, -, hcalls⟩ :=
    hpasses _ _ rules Parser.builtin _ _ record .error (fun p hp => Parser.faithful_of_mem_builtin hp)
      ⟨_, List.mem_cons_self, rfl⟩ hmem rfl hrun
  refine ⟨_, rules, record, hrule, hbuiltin, hmem, rfl, hrun, hfailures, hviolations, ?_⟩
  apply List.Perm.eq_nil
  refine hcalls.trans (List.Perm.of_eq (List.flatMap_eq_nil_iff.mpr ?_))
  intro inv hinv
  obtain ⟨hinv, hname⟩ := List.mem_filter.mp hinv
  have hbuiltins := (Pass.mem_invocations.mp hinv).1
  rw [hrules] at hbuiltins
  rcases List.mem_pair.mp hbuiltins with heq | heq
  · exact EveryNLines.calls_eq_nil documents (congrArg Rule.function heq)
  · exact absurd (congrArg Rule.name heq) (of_decide_eq_true hname)

end DocLint.LintJavascript
