import DocLint.Proofs.Pass.Entries

/-!
# Checks that break off

Over a source that is accepted, a pass comes to a result whatever the functions of its rules do. It is only the
check of a rule's options that can keep it from one: where it breaks off the pass does so too, in the midst of its
calls. The first rule for which this happens, in the order of registration, tells what the pass ends with.
-/

namespace DocLint

set_option autoImplicit false

/-- The rule has a parser, so its options are checked, and the check breaks off. -/
def Invocation.BreaksOff (parsers : List Parser) (inv : Invocation) (m : Option String) : Prop :=
  (∃ p ∈ parsers, p.kind = inv.parser) ∧ inv.rule.validate inv.settings.options = .panicked m

namespace Pass

section Shares
variable {parsers : List Parser} {name source : String} {invs : List Invocation} {documents : List Document}
  {inv : Invocation} {n : Nat}

/-- Over a source that is accepted, the rules with a parser are those that see a document. -/
theorem exists_find?_document_iff (hfaithful : ∀ p ∈ parsers, p.Faithful)
    (hread : readAll name source (neededParsers parsers invs) = .ok documents) (hinv : inv ∈ invs) :
    (∃ d, documents.find? (fun d => d.parser = inv.parser) = some d) ↔ ∃ p ∈ parsers, p.kind = inv.parser := by
  rw [find?_document hfaithful hread hinv, documentFor]
  cases hparser : findParser parsers inv.parser with
  | none =>
    have hnone := findParser_eq_none_iff.mp hparser
    simpa using hnone
  | some p =>
    obtain ⟨stream, hstream⟩ :=
      exists_readAll_iff.mp ⟨documents, hread⟩ p (mem_neededParsers.mpr ⟨inv, hinv, hparser⟩)
    refine iff_of_true ⟨.ofSource name source stream, ?_⟩
      ⟨p, List.mem_of_find?_eq_some hparser, kind_of_findParser hparser⟩
    rw [Option.bind_some, hstream]
    rfl

theorem share_eq_error_iff_breaksOff (hfaithful : ∀ p ∈ parsers, p.Faithful)
    (hread : readAll name source (neededParsers parsers invs) = .ok documents) (hinv : inv ∈ invs) {stop : PassStop} :
    inv.share documents n = .error stop ↔ ∃ m, stop = .panicked m ∧ inv.BreaksOff parsers m := by
  rw [Invocation.share_eq_error_iff, exists_find?_document_iff hfaithful hread hinv]
  constructor
  · rintro ⟨hparser, m, rfl, hverdict⟩
    exact ⟨m, rfl, hparser, hverdict⟩
  · rintro ⟨m, rfl, hparser, hverdict⟩
    exact ⟨hparser, m, rfl, hverdict⟩

theorem exists_share_iff (hfaithful : ∀ p ∈ parsers, p.Faithful)
    (hread : readAll name source (neededParsers parsers invs) = .ok documents) (hinv : inv ∈ invs) :
    (∃ s, inv.share documents n = .ok s) ↔ ∀ m, ¬ inv.BreaksOff parsers m := by
  cases hshare : inv.share documents n with
  | ok s =>
    refine iff_of_true ⟨s, rfl⟩ ?_
    intro m hbreaks
    have herror : inv.share documents n = .error (.panicked m) :=
      (share_eq_error_iff_breaksOff hfaithful hread hinv).mpr ⟨m, rfl, hbreaks⟩
    rw [hshare] at herror
    cases herror
  | error stop =>
    obtain ⟨m, -, hbreaks⟩ := (share_eq_error_iff_breaksOff hfaithful hread hinv).mp hshare
    refine iff_of_false nofun ?_
    intro hnone
    exact hnone m hbreaks

/-- The first rule whose check breaks off tells why there are no shares. -/
theorem shares_eq_error_iff (hfaithful : ∀ p ∈ parsers, p.Faithful)
    (hread : readAll name source (neededParsers parsers invs) = .ok documents) {stop : PassStop} :
    shares documents n invs = .error stop ↔
      ∃ before inv after m, invs = before ++ inv :: after ∧ stop = .panicked m ∧ inv.BreaksOff parsers m ∧
        ∀ earlier ∈ before, ∀ m, ¬ earlier.BreaksOff parsers m := by
  rw [shares, mapM_eq_error_iff]
  constructor
  · rintro ⟨before, inv, after, hsplit, hbefore, hinv⟩
    have hmem : ∀ i ∈ before ++ inv :: after, i ∈ invs := fun i hi => hsplit ▸ hi
    obtain ⟨m, hstop, hbreaks⟩ := (share_eq_error_iff_breaksOff hfaithful hread (hmem inv (by simp))).mp hinv
    refine ⟨before, inv, after, m, hsplit, hstop, hbreaks, ?_⟩
    intro earlier hearlier
    exact (exists_share_iff hfaithful hread (hmem earlier (by simp [hearlier]))).mp (hbefore earlier hearlier)
  · rintro ⟨before, inv, after, m, hsplit, hstop, hbreaks, hbefore⟩
    have hmem : ∀ i ∈ before ++ inv :: after, i ∈ invs := fun i hi => hsplit ▸ hi
    refine ⟨before, inv, after, hsplit, ?_, ?_⟩
    · intro earlier hearlier
      exact (exists_share_iff hfaithful hread (hmem earlier (by simp [hearlier]))).mpr (hbefore earlier hearlier)
    · exact (share_eq_error_iff_breaksOff hfaithful hread (hmem inv (by simp))).mpr ⟨m, hstop, hbreaks⟩

end Shares

section Passes
variable {config : Config} {rules : RuleSet} {parsers : List Parser} {name source : String}
  {documents : List Document}

theorem runWith_eq_error_iff_shares (schedule : Ledger → List Nat)
    (hread : readAll name source (neededParsers parsers (invocations config rules.rules)) = .ok documents)
    {stop : PassStop} :
    runWith schedule config rules parsers name source = .error stop ↔
      shares documents (physicalLines source).length (invocations config rules.rules) = .error stop := by
  rw [runWith_eq_error_iff]
  cases hfound : shares documents (physicalLines source).length (invocations config rules.rules) with
  | error stop' => rw [alone_of_stopped hread hfound, Except.error.injEq, Except.error.injEq]
  | ok found =>
    rw [(alone_eq_ok_iff ..).mpr ⟨documents, found, hread, hfound, rfl⟩]
    exact ⟨nofun, nofun⟩

/-- The pass ends with the check that breaks off first. No rule after it has a turn. -/
theorem events_of_breaksOff (schedule : Ledger → List Nat) (hfaithful : ∀ p ∈ parsers, p.Faithful)
    (hread : readAll name source (neededParsers parsers (invocations config rules.rules)) = .ok documents)
    {before after : List Invocation} {inv : Invocation} {m : Option String}
    (hsplit : invocations config rules.rules = before ++ inv :: after) (hinv : inv.BreaksOff parsers m)
    (hbefore : ∀ earlier ∈ before, ∀ m, ¬ earlier.BreaksOff parsers m) :
    (runLogged schedule config rules parsers name source).events =
      (neededParsers parsers (invocations config rules.rules)).map .read ++
        before.flatMap (turnOf documents) ++ [.check inv.rule] := by
  have hmem : ∀ i ∈ before ++ inv :: after, i ∈ invocations config rules.rules := fun i hi => hsplit ▸ hi
  obtain ⟨found, hfound⟩ : ∃ found, shares documents (physicalLines source).length before = .ok found := by
    simp only [shares_eq_ok_iff, exists_forall₂_iff]
    intro earlier hearlier
    exact (exists_share_iff hfaithful hread (hmem earlier (by simp [hearlier]))).mpr (hbefore earlier hearlier)
  have hcalls := sameOutcome_callAll documents (physicalLines source).length before
  rw [hfound] at hcalls
  generalize hcalled : callAll documents (physicalLines source).length before = outcome at hcalls
  cases hcalls with
  | @ok called _ hholds =>
    obtain ⟨d, hd⟩ := (exists_find?_document_iff hfaithful hread (hmem inv (by simp))).mpr hinv.1
    have hstop : call documents (physicalLines source).length called inv = .error (.panicked m) := by
      simp only [call, hd, hinv.2]
    have hturn : turnOf documents inv = [.check inv.rule] := by
      simp only [turnOf, hd, hinv.2]
    rw [events_runLogged_of_read schedule hread, lineBound_eq hread]
    conv_lhs => rw [hsplit]
    rw [events_foldlM_of_stop hcalled hstop, hturn, ← hsplit, List.append_assoc]

/-- Over a source that all needed parsers accept, a pass has a result exactly if no enabled rule with a parser has a
check that breaks off, whatever the functions of the rules do. Else it ends with what the first such check leaves, in
the order of registration: the rules before it have had their turns, and none after it has one. -/
theorem stops_at_first_break (schedule : Ledger → List Nat) {config : Config} {rules : RuleSet}
    {parsers : List Parser} (name : String) {source : String} (hfaithful : ∀ p ∈ parsers, p.Faithful)
    (haccepts : ∀ p ∈ neededParsers parsers (invocations config rules.rules), ∃ stream, p.parse source = .ok stream) :
    ((∃ record, runWith schedule config rules parsers name source = .ok record) ↔
      ∀ inv ∈ invocations config rules.rules, ∀ m, ¬ inv.BreaksOff parsers m) ∧
    (∀ stop, runWith schedule config rules parsers name source = .error stop ↔
      ∃ before inv after m, invocations config rules.rules = before ++ inv :: after ∧ stop = .panicked m ∧
        inv.BreaksOff parsers m ∧ ∀ earlier ∈ before, ∀ m, ¬ earlier.BreaksOff parsers m) ∧
    ∃ documents,
      readAll name source (neededParsers parsers (invocations config rules.rules)) = .ok documents ∧
      ∀ before inv after m, invocations config rules.rules = before ++ inv :: after → inv.BreaksOff parsers m →
        (∀ earlier ∈ before, ∀ m, ¬ earlier.BreaksOff parsers m) →
        (runLogged schedule config rules parsers name source).events =
          (neededParsers parsers (invocations config rules.rules)).map .read ++
            before.flatMap (turnOf documents) ++ [.check inv.rule] := by
  obtain ⟨documents, hread⟩ :
      ∃ documents, readAll name source (neededParsers parsers (invocations config rules.rules)) = .ok documents :=
    exists_readAll_iff.mpr haccepts
  refine ⟨?_, ?_, documents, hread, ?_⟩
  · constructor
    · rintro ⟨record, hrun⟩
      obtain ⟨documents', found, hread', hfound, -⟩ := (alone_eq_ok_iff ..).mp (alone_of_runWith hrun)
      obtain rfl := Except.ok.inj (hread.symm.trans hread')
      intro inv hinv
      have hshares := exists_forall₂_iff.mp ⟨found, shares_eq_ok_iff.mp hfound⟩ inv hinv
      exact (exists_share_iff hfaithful hread hinv).mp hshares
    · intro hnone
      cases hrun : runWith schedule config rules parsers name source with
      | ok record => exact ⟨record, rfl⟩
      | error stop =>
        obtain ⟨before, inv, after, m, hsplit, -, hbreaks, -⟩ :=
          (shares_eq_error_iff hfaithful hread).mp ((runWith_eq_error_iff_shares schedule hread).mp hrun)
        refine absurd hbreaks (hnone inv ?_ m)
        rw [hsplit]
        exact List.mem_append_right before List.mem_cons_self
  · intro stop
    rw [runWith_eq_error_iff_shares schedule hread, shares_eq_error_iff hfaithful hread]
  · intro before inv after m hsplit hinv hbefore
    exact events_of_breaksOff schedule hfaithful hread hsplit hinv hbefore

end Passes

/-- A rule whose check breaks off stands between one that has been started when its turn comes and one that is still
to be called. -/
def breakingRules : RuleSet :=
  ⟨[failingRule, breakingRule, panickingRule], by decide +kernel⟩

theorem accepts_of_breakingRules :
    ∀ p ∈ neededParsers Parser.builtin (invocations .standard breakingRules.rules),
      ∃ stream, p.parse "x\ny" = .ok stream :=
  exists_readAll_iff.mp (exists_readAll_builtin "a.txt" (by decide) _)

/-- There is no result over a source that is accepted, neither with a failure of the rule nor with what the other
rules have found. -/
theorem no_result_of_breakingRule :
    (∀ p ∈ neededParsers Parser.builtin (invocations .standard breakingRules.rules),
      ∃ stream, p.parse "x\ny" = .ok stream) ∧
    ⟨breakingRule, .standard⟩ ∈ invocations .standard breakingRules.rules ∧
    (∃ p ∈ Parser.builtin, p.kind = breakingRule.descriptor.parser) ∧
    breakingRule.validate .null = .panicked (some "boom") ∧
    ∀ schedule record, runWith schedule .standard breakingRules Parser.builtin "a.txt" "x\ny" ≠ .ok record := by
  have halone : alone .standard breakingRules Parser.builtin "a.txt" "x\ny" = .error (.panicked (some "boom")) := by
    rfl
  refine ⟨accepts_of_breakingRules, mem_invocations.mpr ⟨by simp [breakingRules], rfl⟩,
    ⟨_, List.mem_cons_of_mem _ List.mem_cons_self, rfl⟩, rfl, ?_⟩
  intro schedule record hrun
  rw [(runWith_eq_error_iff schedule).mpr halone] at hrun
  cases hrun

/-- The rule before has been called, and the one behind has not even been checked. -/
theorem stopped_at_breakingRule :
    (∀ p ∈ Parser.builtin, p.Faithful) ∧
    (∀ p ∈ neededParsers Parser.builtin (invocations .standard breakingRules.rules),
      ∃ stream, p.parse "x\ny" = .ok stream) ∧
    runWith Ledger.roundRobin .standard breakingRules Parser.builtin "a.txt" "x\ny" =
      .error (.panicked (some "boom")) ∧
    (runLogged Ledger.roundRobin .standard breakingRules Parser.builtin "a.txt" "x\ny").events =
      [.read .plainText, .check failingRule, .call failingRule, .check breakingRule] := by
  have hfaithful : ∀ p ∈ Parser.builtin, p.Faithful := fun _ => Parser.faithful_of_mem_builtin
  have hinvs : invocations .standard breakingRules.rules =
      [⟨failingRule, .standard⟩] ++ ⟨breakingRule, .standard⟩ :: [⟨panickingRule, .standard⟩] := by rfl
  have hbreaks : Invocation.BreaksOff Parser.builtin ⟨breakingRule, .standard⟩ (some "boom") :=
    ⟨⟨_, List.mem_cons_of_mem _ List.mem_cons_self, rfl⟩, rfl⟩
  have hbefore : ∀ earlier ∈ [(⟨failingRule, .standard⟩ : Invocation)], ∀ m,
      ¬ earlier.BreaksOff Parser.builtin m := by
    rintro earlier hearlier m ⟨-, hverdict⟩
    cases List.mem_singleton.mp hearlier
    cases hverdict
  obtain ⟨-, hstops, documents, hread, hevents⟩ := stops_at_first_break Ledger.roundRobin "a.txt" hfaithful
    accepts_of_breakingRules
  refine ⟨hfaithful, accepts_of_breakingRules, (hstops _).mpr ⟨_, _, _, _, hinvs, rfl, hbreaks, hbefore⟩, ?_⟩
  have hdocuments : readAll "a.txt" "x\ny"
      (neededParsers Parser.builtin (invocations .standard breakingRules.rules)) =
        .ok [.ofSource "a.txt" "x\ny" ⟨.text, PlainText.tokens "x\ny"⟩] := by rfl
  obtain rfl := Except.ok.inj (hdocuments.symm.trans hread)
  exact hevents _ _ _ _ hinvs hbreaks hbefore

end Pass

end DocLint
