import DocLint.Proofs.Pass.Isolation

/-!
# The failures of a pass

Errors are noted at several moments: while the rules are called, when those that wait have ended, and when the
reporters are emptied. In the result they stand rule by rule all the same. Each enabled rule is refused, with one
error, or is called once, and then its error stands before its reports on lines that there are not.
-/

namespace DocLint

set_option autoImplicit false

/-- What becomes of an enabled rule in a pass: what it adds to the result, and whether it is called. -/
inductive Invocation.Becomes (parsers : List Parser) (name source : String) (inv : Invocation) :
    Share → Prop where
  /-- No parser has its kind; its options do not matter then. -/
  | unavailable (hparser : ∀ p ∈ parsers, p.kind ≠ inv.parser) :
      Becomes parsers name source inv
        ⟨inv.rule.name, [], [.config ("parser '" ++ inv.parser.name ++ "' is not available")], false⟩
  | rejected {p : Parser} {e : RuleError} (hparser : p ∈ parsers) (hkind : p.kind = inv.parser)
      (hverdict : inv.rule.validate inv.settings.options = .rejected e) :
      Becomes parsers name source inv ⟨inv.rule.name, [], [e], false⟩
  | called {p : Parser} {stream : TokenStream} {t : Trace}
      (hparser : Pass.findParser parsers inv.parser = some p) (hstream : p.parse source = .ok stream)
      (hverdict : inv.rule.validate inv.settings.options = .accepted)
      (htrace : inv.rule.trace ⟨.ofSource name source stream, inv.settings.options⟩ = t) :
      Becomes parsers name source inv
        { rule := inv.rule.name
          violations :=
            (t.reports.filter (Report.isWithin (physicalLines source).length)).map inv.violation
          errors := t.outcome.error?.toList ++
            (t.reports.filter (!Report.isWithin (physicalLines source).length ·)).map fun r =>
              .invalidLine r.line (physicalLines source).length
          called := true }

namespace Pass

section Becoming
variable {parsers : List Parser} {name source : String} {invs : List Invocation}
  {documents : List Document} {found : List Share}

theorem findParser_eq_none_iff {kind : ParserKind} :
    findParser parsers kind = none ↔ ∀ p ∈ parsers, p.kind ≠ kind := by
  simp [findParser]

/-- What a rule needs has been parsed, so a rule is without a document only if it is without a parser. -/
theorem becomes_of_share (hfaithful : ∀ p ∈ parsers, p.Faithful)
    (hread : readAll name source (neededParsers parsers invs) = .ok documents)
    {inv : Invocation} (hinv : inv ∈ invs) {s : Share}
    (hs : inv.share documents (physicalLines source).length = .ok s) :
    inv.Becomes parsers name source s := by
  rw [Invocation.share, find?_document hfaithful hread hinv, documentFor] at hs
  cases hparser : findParser parsers inv.parser with
  | none =>
    rw [hparser] at hs
    obtain rfl := Except.ok.inj hs
    exact .unavailable (findParser_eq_none_iff.mp hparser)
  | some p =>
    have hneeded : p ∈ neededParsers parsers invs := mem_neededParsers.mpr ⟨inv, hinv, hparser⟩
    obtain ⟨stream, hstream⟩ := exists_readAll_iff.mp ⟨documents, hread⟩ p hneeded
    simp only [hparser, Option.bind_some, hstream, Except.toOption, Option.map_some] at hs
    cases hverdict : inv.rule.validate inv.settings.options with
    | panicked m => simp [hverdict] at hs
    | rejected e =>
      rw [hverdict] at hs
      obtain rfl := Except.ok.inj hs
      exact .rejected (List.mem_of_find?_eq_some hparser) (kind_of_findParser hparser) hverdict
    | accepted =>
      rw [hverdict] at hs
      obtain rfl := Except.ok.inj hs
      exact .called hparser hstream hverdict rfl

end Becoming

section Result
variable {schedule : Ledger → List Nat} {config : Config} {rules : RuleSet} {parsers : List Parser}
  {name source : String} {record : PassRecord} {documents : List Document} {found : List Share}

theorem mem_dedup {seen : List Violation.Key} {all : List Violation} {v : Violation}
    (h : v ∈ dedup seen all) : v ∈ all := by
  induction all generalizing seen with
  | nil => exact h
  | cons w rest ih =>
    rw [dedup] at h
    split at h
    · exact List.mem_cons_of_mem _ (ih h)
    · rcases List.mem_cons.mp h with rfl | h
      · exact List.mem_cons_self
      · exact List.mem_cons_of_mem _ (ih h)

theorem mem_arrange {all : List Violation} {v : Violation} (h : v ∈ arrange config all) : v ∈ all := by
  rw [arrange, List.mem_mergeSort] at h
  split at h
  · exact mem_dedup h
  · exact h

theorem nodup_rule
    (hfound : shares documents (physicalLines source).length (invocations config rules.rules) = .ok found) :
    (found.map Share.rule).Nodup := by
  rw [map_of_shares (fun _ _ => Invocation.rule_of_share) hfound, List.nodup_iff_pairwise_ne,
    List.pairwise_map, invocations, List.pairwise_filterMap]
  refine rules.pairwise_name_ne.imp ?_
  intro r r' hne inv hinv inv' hinv'
  obtain ⟨_, -, rfl⟩ := Option.map_eq_some_iff.mp hinv
  obtain ⟨_, -, rfl⟩ := Option.map_eq_some_iff.mp hinv'
  exact hne

end Result

/-- A rule that accepts no options at all, for tokens that no parser of plain text makes. -/
def homelessRule : Rule where
  descriptor := ⟨["homeless"], "Reads Markdown", ["broken"], none, .markdown, false⟩
  validate _ := .rejected (.config "no options")
  function := .sync fun _ => ⟨[.report ⟨1, none, none⟩], .finished⟩
  valid := by decide +kernel
  fits := rfl

def rejectedRule : Rule :=
  { homelessRule with
    descriptor := ⟨["rejected"], "Reads lines", ["broken"], none, .text, false⟩
    valid := by decide +kernel
    fits := rfl }

def refusedRules : RuleSet :=
  ⟨[panickingRule, homelessRule, rejectedRule, failingRule], by decide +kernel⟩

end Pass

end DocLint
