import DocLint.Pass.Log
import DocLint.Proofs.Pass.Reordering
import DocLint.Proofs.Text.Slice

/-!
# Parsers in a pass

All parsers that the enabled rules need read the source before anything of a rule runs. The first of them that
rejects the source ends the pass, and nothing else can end it with an error.
-/

namespace DocLint

set_option autoImplicit false

namespace Pass

section Outcome

theorem outcome_readLogged (name source : String) (parsers : List Parser) :
    (readLogged name source parsers).outcome = (readAll name source parsers).mapError .error := by
  induction parsers with
  | nil => rfl
  | cons p rest ih =>
    rw [readLogged, readAll, Logged.outcome_bind, Logged.note]
    cases p.parse source with
    | error cause => rfl
    | ok stream =>
      change (readLogged name source rest >>= fun documents =>
        pure (Document.ofSource name source stream :: documents)).outcome = _
      rw [Logged.outcome_bind, ih]
      cases readAll name source rest with
      | error e => rfl
      | ok documents => rfl

theorem outcome_callLogged (documents : List Document) (n : Nat) (l : Ledger) (inv : Invocation) :
    (callLogged documents n l inv).outcome = call documents n l inv := by
  unfold callLogged call
  cases documents.find? fun d => d.parser = inv.parser with
  | none => rfl
  | some document =>
    simp only [Logged.outcome_bind, Logged.note]
    cases inv.rule.validate inv.settings.options with
    | panicked m => rfl
    | rejected e => rfl
    | accepted =>
      simp only [bind, Except.bind]
      cases inv.rule.function with
      | sync run => rfl
      | async start =>
        simp only []
        cases start ⟨document, inv.settings.options⟩ with
        | started atOnce t => rfl
        | panicked atOnce m => rfl

theorem outcome_foldlM {step : Ledger → Invocation → Logged Ledger}
    {plain : Ledger → Invocation → Except PassStop Ledger}
    (hstep : ∀ l inv, (step l inv).outcome = plain l inv) (l : Ledger) (invs : List Invocation) :
    (invs.foldlM step l).outcome = invs.foldlM plain l := by
  induction invs generalizing l with
  | nil => rfl
  | cons inv rest ih =>
    rw [List.foldlM_cons, List.foldlM_cons, Logged.outcome_bind, hstep]
    simp only [ih]

theorem outcome_runLogged (schedule : Ledger → List Nat) (config : Config) (rules : RuleSet)
    (parsers : List Parser) (name source : String) :
    (runLogged schedule config rules parsers name source).outcome =
      runWith schedule config rules parsers name source := by
  unfold runLogged runWith
  simp only [Logged.outcome_bind, outcome_readLogged]
  congr 1
  funext documents
  rw [outcome_foldlM (outcome_callLogged documents _)]
  rfl

end Outcome

section Events
variable {name source : String} {documents : List Document} {n : Nat}

/-- A parser that reads is noted, and nothing comes after one that rejects the source. -/
theorem events_readLogged_cons (name source : String) (p : Parser) (rest : List Parser) :
    (readLogged name source (p :: rest)).events =
      .read p :: match p.parse source with
        | .ok _ => (readLogged name source rest).events
        | .error _ => [] := by
  rw [readLogged]
  cases hp : p.parse source with
  | error cause =>
    have hnote : (Logged.note (.read p) ((Except.error cause : Except ParseError TokenStream).mapError
        fun e => PassStop.error (.parse e))).outcome = .error (.error (.parse cause)) := rfl
    rw [Logged.events_bind_of_error hnote]
    rfl
  | ok stream =>
    have hnote : (Logged.note (.read p) ((Except.ok stream : Except ParseError TokenStream).mapError
        fun e => PassStop.error (.parse e))).outcome = .ok stream := rfl
    rw [Logged.events_bind_of_ok hnote, Logged.events_bind_pure]
    rfl

theorem reads_readLogged_cons (name source : String) (p : Parser) (rest : List Parser) :
    (readLogged name source (p :: rest)).reads =
      p :: match p.parse source with
        | .ok _ => (readLogged name source rest).reads
        | .error _ => [] := by
  rw [Logged.reads, events_readLogged_cons]
  cases p.parse source with
  | error cause => rfl
  | ok stream => rfl

theorem eq_read_of_mem_events {parsers : List Parser} {event : Event}
    (h : event ∈ (readLogged name source parsers).events) : ∃ p, event = .read p := by
  induction parsers with
  | nil => cases h
  | cons p rest ih =>
    rw [events_readLogged_cons] at h
    rcases List.mem_cons.mp h with rfl | h
    · exact ⟨p, rfl⟩
    · cases hp : p.parse source with
      | error cause =>
        rw [hp] at h
        cases h
      | ok stream =>
        rw [hp] at h
        exact ih h

theorem reads_readLogged_isPrefix (name source : String) (parsers : List Parser) :
    (readLogged name source parsers).reads <+: parsers := by
  induction parsers with
  | nil => exact List.prefix_rfl
  | cons p rest ih =>
    rw [reads_readLogged_cons, List.cons_prefix_cons]
    cases p.parse source with
    | error cause => exact ⟨rfl, List.nil_prefix⟩
    | ok stream => exact ⟨rfl, ih⟩

/-- A parser reads exactly if all parsers before it accept the source. -/
theorem mem_reads_readLogged {p : Parser} {parsers : List Parser} :
    p ∈ (readLogged name source parsers).reads ↔
      ∃ before after, parsers = before ++ p :: after ∧ ∀ q ∈ before, ∃ stream, q.parse source = .ok stream := by
  induction parsers with
  | nil =>
    constructor
    · intro h
      cases h
    · rintro ⟨before, after, h, -⟩
      simp at h
  | cons q rest ih =>
    rw [reads_readLogged_cons, List.mem_cons]
    constructor
    · rintro (rfl | h)
      · exact ⟨[], rest, rfl, by simp⟩
      · cases hq : q.parse source with
        | error cause =>
          rw [hq] at h
          cases h
        | ok stream =>
          rw [hq] at h
          obtain ⟨before, after, rfl, hbefore⟩ := ih.mp h
          exact ⟨q :: before, after, rfl, List.forall_mem_cons.mpr ⟨⟨stream, hq⟩, hbefore⟩⟩
    · rintro ⟨before, after, hsplit, hbefore⟩
      cases before with
      | nil => exact .inl (List.cons.inj hsplit).1.symm
      | cons r before =>
        obtain ⟨rfl, rfl⟩ := List.cons.inj hsplit
        obtain ⟨⟨stream, hstream⟩, hrest⟩ := List.forall_mem_cons.mp hbefore
        rw [hstream]
        exact .inr (ih.mpr ⟨before, after, rfl, hrest⟩)

theorem reads_bind_of_nil {α β : Type} {x : Logged α} {f : α → Logged β} (hf : ∀ a, (f a).reads = []) :
    (x >>= f).reads = x.reads := by
  cases h : x.outcome with
  | error stop => rw [Logged.reads, Logged.events_bind_of_error h, Logged.reads]
  | ok a =>
    rw [Logged.reads, Logged.events_bind_of_ok h, List.filterMap_append]
    exact List.append_right_eq_self.mpr (hf a)

/-- What runs when an enabled rule has its turn: the check of its options, and then its function if they are
accepted. -/
def turnOf (documents : List Document) (inv : Invocation) : List Event :=
  match documents.find? fun d => d.parser = inv.parser with
  | none => []
  | some _ =>
    .check inv.rule :: match inv.rule.validate inv.settings.options with
      | .accepted => [.call inv.rule]
      | .rejected _ | .panicked _ => []

theorem events_callLogged (l : Ledger) (inv : Invocation) :
    (callLogged documents n l inv).events = turnOf documents inv := by
  unfold callLogged turnOf
  cases documents.find? fun d => d.parser = inv.parser with
  | none => rfl
  | some document =>
    have hnote (verdict : Verdict) : (Logged.note (.check inv.rule) (.ok verdict)).outcome = .ok verdict := rfl
    simp only [Logged.events_bind_of_ok (hnote _)]
    cases inv.rule.validate inv.settings.options with
    | panicked m => rfl
    | rejected e => rfl
    | accepted =>
      cases inv.rule.function with
      | sync run => rfl
      | async start =>
        have hcall (s : Start) : (Logged.note (.call inv.rule) (.ok s)).outcome = .ok s := rfl
        simp only [Logged.events_bind_of_ok (hcall _)]
        cases start ⟨document, inv.settings.options⟩ with
        | started atOnce t => rfl
        | panicked atOnce m => rfl

theorem reads_callLogged (l : Ledger) (inv : Invocation) : (callLogged documents n l inv).reads = [] := by
  rw [Logged.reads, events_callLogged, turnOf]
  cases documents.find? fun d => d.parser = inv.parser with
  | none => rfl
  | some document => cases inv.rule.validate inv.settings.options <;> rfl

theorem reads_foldlM (l : Ledger) (invs : List Invocation) :
    (invs.foldlM (callLogged documents n) l).reads = [] := by
  induction invs generalizing l with
  | nil => rfl
  | cons inv rest ih =>
    rw [List.foldlM_cons, reads_bind_of_nil ih]
    exact reads_callLogged l inv

theorem events_foldlM_of_ok {invs : List Invocation} {l called : Ledger}
    (h : invs.foldlM (call documents n) l = .ok called) :
    (invs.foldlM (callLogged documents n) l).events = invs.flatMap (turnOf documents) := by
  induction invs generalizing l with
  | nil => rfl
  | cons inv rest ih =>
    rw [List.foldlM_cons, bind_eq_ok_iff] at h
    obtain ⟨next, hnext, hrest⟩ := h
    have hstep : (callLogged documents n l inv).outcome = .ok next := (outcome_callLogged ..).trans hnext
    rw [List.foldlM_cons, Logged.events_bind_of_ok hstep, events_callLogged, ih hrest, List.flatMap_cons]

/-- The call that ends a pass is the last one. -/
theorem events_foldlM_of_stop {before after : List Invocation} {inv : Invocation} {l called : Ledger}
    {stop : PassStop} (h : before.foldlM (call documents n) l = .ok called)
    (hstop : call documents n called inv = .error stop) :
    ((before ++ inv :: after).foldlM (callLogged documents n) l).events =
      before.flatMap (turnOf documents) ++ turnOf documents inv := by
  induction before generalizing l with
  | nil =>
    obtain rfl := Except.ok.inj h
    have hlast : (callLogged documents n l inv).outcome = .error stop := (outcome_callLogged ..).trans hstop
    rw [List.nil_append, List.foldlM_cons, Logged.events_bind_of_error hlast, events_callLogged, List.flatMap_nil,
      List.nil_append]
  | cons first rest ih =>
    rw [List.foldlM_cons, bind_eq_ok_iff] at h
    obtain ⟨next, hnext, hrest⟩ := h
    have hstep : (callLogged documents n l first).outcome = .ok next := (outcome_callLogged ..).trans hnext
    rw [List.cons_append, List.foldlM_cons, Logged.events_bind_of_ok hstep, events_callLogged, ih hrest,
      List.flatMap_cons, List.append_assoc]

theorem events_readLogged_of_ok {parsers : List Parser} (h : readAll name source parsers = .ok documents) :
    (readLogged name source parsers).events = parsers.map .read := by
  have haccept := exists_readAll_iff.mp ⟨documents, h⟩
  clear h
  induction parsers with
  | nil => rfl
  | cons p rest ih =>
    obtain ⟨⟨stream, hstream⟩, hrest⟩ := List.forall_mem_cons.mp haccept
    rw [events_readLogged_cons, hstream, List.map_cons, ← ih hrest]

end Events

section Needed
variable {parsers : List Parser} {invs : List Invocation}

theorem neededParsers_sorted (parsers : List Parser) (invs : List Invocation) :
    (neededParsers parsers invs).Pairwise fun p q => p.kind.rank < q.kind.rank := by
  have hkinds : [ParserKind.markdown, .text].Pairwise fun a b => a.rank < b.rank := by decide
  rw [neededParsers, List.pairwise_filterMap]
  refine hkinds.imp ?_
  intro a b hab p hp q hq
  rw [Option.ite_none_right_eq_some] at hp hq
  rw [kind_of_findParser hp.2, kind_of_findParser hq.2]
  exact hab

/-- The parser of a kind rejects a source. -/
def Rejects (parsers : List Parser) (source : String) (kind : ParserKind) (cause : ParseError) : Prop :=
  ∃ p, findParser parsers kind = some p ∧ p.parse source = .error cause

/-- No smaller kind that a rule needs is rejected. -/
def Reaches (parsers : List Parser) (source : String) (invs : List Invocation) (kind : ParserKind) : Prop :=
  ∀ inv ∈ invs, inv.parser.rank < kind.rank → ∀ cause, ¬ Rejects parsers source inv.parser cause

variable {name source : String}

theorem accepts_of_not_rejects {kind : ParserKind} {p : Parser} (hfind : findParser parsers kind = some p)
    (h : ∀ cause, ¬ Rejects parsers source kind cause) : ∃ stream, p.parse source = .ok stream := by
  cases hp : p.parse source with
  | ok stream => exact ⟨stream, rfl⟩
  | error cause => exact absurd ⟨p, hfind, hp⟩ (h cause)

section Split
variable {before after : List Parser} {p q : Parser} (hsplit : neededParsers parsers invs = before ++ p :: after)
include hsplit

theorem rank_lt_of_mem_before (hq : q ∈ before) : q.kind.rank < p.kind.rank := by
  have hsorted := neededParsers_sorted parsers invs
  rw [hsplit, List.pairwise_append] at hsorted
  exact hsorted.2.2 q hq p List.mem_cons_self

theorem rank_lt_of_mem_after (hq : q ∈ after) : p.kind.rank < q.kind.rank := by
  have hsorted := neededParsers_sorted parsers invs
  rw [hsplit, List.pairwise_append, List.pairwise_cons] at hsorted
  exact hsorted.2.1.1 q hq

/-- A needed kind is reached if all parsers before its own accept the source. -/
theorem reaches_iff_of_split :
    Reaches parsers source invs p.kind ↔ ∀ q ∈ before, ∃ stream, q.parse source = .ok stream := by
  constructor
  · intro h q hq
    have hmem : q ∈ neededParsers parsers invs := by
      rw [hsplit]
      exact List.mem_append_left _ hq
    obtain ⟨inv, hinv, hfind⟩ := mem_neededParsers.mp hmem
    have hlt := rank_lt_of_mem_before hsplit hq
    rw [kind_of_findParser hfind] at hlt
    exact accepts_of_not_rejects hfind (h inv hinv hlt)
  · -- a smaller kind that is needed has its parser before this one
    rintro h inv hinv hlt cause ⟨q, hfind, hq⟩
    rw [← kind_of_findParser hfind] at hlt
    have hmem : q ∈ before ++ p :: after := hsplit ▸ mem_neededParsers.mpr ⟨inv, hinv, hfind⟩
    rcases List.mem_append.mp hmem with hbefore | hrest
    · obtain ⟨stream, hstream⟩ := h q hbefore
      rw [hq] at hstream
      cases hstream
    · rcases List.mem_cons.mp hrest with rfl | hafter
      · exact Nat.lt_irrefl _ hlt
      · exact Nat.lt_asymm hlt (rank_lt_of_mem_after hsplit hafter)

end Split

theorem readAll_needed_eq_error_iff {e : LintError} :
    readAll name source (neededParsers parsers invs) = .error e ↔
      ∃ inv ∈ invs, ∃ cause, Rejects parsers source inv.parser cause ∧
        Reaches parsers source invs inv.parser ∧ e = .parse cause := by
  constructor
  · intro h
    obtain ⟨before, p, after, cause, hsplit, hbefore, hp, rfl⟩ := readAll_eq_error_iff.mp h
    have hmem : p ∈ neededParsers parsers invs := by
      rw [hsplit]
      exact List.mem_append_right before List.mem_cons_self
    obtain ⟨inv, hinv, hfind⟩ := mem_neededParsers.mp hmem
    refine ⟨inv, hinv, cause, ⟨p, hfind, hp⟩, ?_, rfl⟩
    rw [← kind_of_findParser hfind]
    exact (reaches_iff_of_split hsplit).mpr hbefore
  · rintro ⟨inv, hinv, cause, ⟨p, hfind, hp⟩, hreaches, rfl⟩
    have hmem : p ∈ neededParsers parsers invs := mem_neededParsers.mpr ⟨inv, hinv, hfind⟩
    obtain ⟨before, after, hsplit⟩ := List.append_of_mem hmem
    rw [← kind_of_findParser hfind] at hreaches
    exact readAll_eq_error_iff.mpr
      ⟨before, p, after, cause, hsplit, (reaches_iff_of_split hsplit).mp hreaches, hp, rfl⟩

theorem exists_readAll_error_iff (name : String) :
    (∃ e, readAll name source (neededParsers parsers invs) = .error e) ↔
      ∃ inv ∈ invs, ∃ cause, Rejects parsers source inv.parser cause := by
  constructor
  · rintro ⟨e, h⟩
    obtain ⟨inv, hinv, cause, hrejects, -, -⟩ := readAll_needed_eq_error_iff.mp h
    exact ⟨inv, hinv, cause, hrejects⟩
  · rintro ⟨inv, hinv, cause, p, hfind, hp⟩
    cases h : readAll name source (neededParsers parsers invs) with
    | error e => exact ⟨e, rfl⟩
    | ok documents =>
      obtain ⟨stream, hstream⟩ :=
        exists_readAll_iff.mp ⟨documents, h⟩ p (mem_neededParsers.mpr ⟨inv, hinv, hfind⟩)
      rw [hp] at hstream
      cases hstream

/-- A parser reads exactly if it is the first of a needed kind and the kind is reached. -/
theorem mem_reads_iff {p : Parser} :
    p ∈ (readLogged name source (neededParsers parsers invs)).reads ↔
      (∃ inv ∈ invs, findParser parsers inv.parser = some p) ∧ Reaches parsers source invs p.kind := by
  rw [mem_reads_readLogged, ← mem_neededParsers]
  constructor
  · rintro ⟨before, after, hsplit, hbefore⟩
    refine ⟨?_, (reaches_iff_of_split hsplit).mpr hbefore⟩
    rw [hsplit]
    exact List.mem_append_right before List.mem_cons_self
  · rintro ⟨hmem, hreaches⟩
    obtain ⟨before, after, hsplit⟩ := List.append_of_mem hmem
    exact ⟨before, after, hsplit, (reaches_iff_of_split hsplit).mp hreaches⟩

end Needed

section Builtin
variable {source : String} {cause : ParseError}

theorem findOffset?_nul_eq_some_iff {n : Nat} :
    Text.findOffset? (· == '\x00') source.toList = some n ↔
      ∃ before after, source.toList = before ++ '\x00' :: after ∧ '\x00' ∉ before ∧
        n = Text.byteLength before := by
  rw [Text.findOffset?_eq_some_iff]
  constructor
  · rintro ⟨before, c, after, hsplit, hbefore, hc, hn⟩
    obtain rfl := eq_of_beq hc
    exact ⟨before, after, hsplit, fun h => by simpa using hbefore _ h, hn⟩
  · rintro ⟨before, after, hsplit, hbefore, hn⟩
    refine ⟨before, '\x00', after, hsplit, ?_, rfl, hn⟩
    intro b hb
    rw [beq_eq_false_iff_ne]
    rintro rfl
    exact hbefore hb

/-- A source is rejected for its first NUL character. -/
theorem checkSource_eq_error_iff :
    checkSource source = .error cause ↔
      ∃ before after, source.toList = before ++ '\x00' :: after ∧ '\x00' ∉ before ∧
        cause = .invalidSource "source contains a NUL byte" (some (Text.byteLength before)) := by
  have hfound : checkSource source = .error cause ↔ ∃ n,
      Text.findOffset? (· == '\x00') source.toList = some n ∧
        cause = .invalidSource "source contains a NUL byte" (some n) := by
    unfold checkSource
    cases Text.findOffset? (· == '\x00') source.toList <;> simp [eq_comm]
  rw [hfound]
  simp only [findOffset?_nul_eq_some_iff]
  constructor
  · rintro ⟨n, ⟨before, after, hsplit, hbefore, rfl⟩, rfl⟩
    exact ⟨before, after, hsplit, hbefore, rfl⟩
  · rintro ⟨before, after, hsplit, hbefore, rfl⟩
    exact ⟨_, ⟨before, after, hsplit, hbefore, rfl⟩, rfl⟩

theorem findParser_builtin (kind : ParserKind) : findParser Parser.builtin kind = some (.ofKind kind) := by
  cases kind <;> rfl

theorem parse_ofKind_eq_error_iff (kind : ParserKind) :
    (Parser.ofKind kind).parse source = .error cause ↔ checkSource source = .error cause := by
  cases kind with
  | markdown => exact bind_pure_eq_error_iff
  | text => exact bind_pure_eq_error_iff

theorem rejects_builtin_iff {kind : ParserKind} :
    Rejects Parser.builtin source kind cause ↔ checkSource source = .error cause := by
  unfold Rejects
  simp only [findParser_builtin, Option.some.injEq, exists_eq_left', parse_ofKind_eq_error_iff]

theorem readAll_builtin_eq_error_iff {name : String} {invs : List Invocation} {e : LintError} :
    readAll name source (neededParsers Parser.builtin invs) = .error e ↔
      invs ≠ [] ∧ ∃ before after, source.toList = before ++ '\x00' :: after ∧ '\x00' ∉ before ∧
        e = .parse (.invalidSource "source contains a NUL byte" (some (Text.byteLength before))) := by
  constructor
  · intro h
    obtain ⟨inv, hinv, cause, hrejects, -, rfl⟩ := readAll_needed_eq_error_iff.mp h
    obtain ⟨before, after, hsplit, hbefore, rfl⟩ := checkSource_eq_error_iff.mp (rejects_builtin_iff.mp hrejects)
    exact ⟨List.ne_nil_of_mem hinv, before, after, hsplit, hbefore, rfl⟩
  · rintro ⟨hne, before, after, hsplit, hbefore, rfl⟩
    have hcheck := checkSource_eq_error_iff.mpr ⟨before, after, hsplit, hbefore, rfl⟩
    obtain ⟨inv, hinv⟩ := List.exists_mem_of_ne_nil invs hne
    obtain ⟨e, he⟩ := (exists_readAll_error_iff name).mpr
      ⟨inv, hinv, _, rejects_builtin_iff.mpr hcheck⟩
    -- whichever parser has rejected the source, it has done so for the same cause
    obtain ⟨_, -, cause, hrejects, -, rfl⟩ := readAll_needed_eq_error_iff.mp he
    rw [he, Except.error.inj (hcheck.symm.trans (rejects_builtin_iff.mp hrejects))]

end Builtin

section Passes
variable {config : Config} {rules : RuleSet} {parsers : List Parser} {name source : String}

theorem runWith_eq_lintError_iff (schedule : Ledger → List Nat) {e : LintError} :
    runWith schedule config rules parsers name source = .error (.error e) ↔
      readAll name source (neededParsers parsers (invocations config rules.rules)) = .error e := by
  rw [runWith_eq_error_iff]
  cases hread : readAll name source (neededParsers parsers (invocations config rules.rules)) with
  | error e' => rw [alone_of_unread hread, Except.error.injEq, PassStop.error.injEq, Except.error.injEq]
  | ok documents =>
    refine ⟨?_, nofun⟩
    intro h
    rcases alone_cases config rules parsers name source with ⟨e', hunread, -⟩ | ⟨m, -, h'⟩ | ⟨result, h'⟩
    · cases hread.symm.trans hunread
    · cases h.symm.trans h'
    · cases h.symm.trans h'

theorem reads_runLogged (schedule : Ledger → List Nat) (config : Config) (rules : RuleSet)
    (parsers : List Parser) (name source : String) :
    (runLogged schedule config rules parsers name source).reads =
      (readLogged name source (neededParsers parsers (invocations config rules.rules))).reads := by
  unfold runLogged
  refine reads_bind_of_nil ?_
  intro documents
  rw [reads_bind_of_nil fun _ => rfl]
  exact reads_foldlM _ _

/-- When a parser rejects the source, nothing else happens in the pass. -/
theorem events_runLogged_of_error (schedule : Ledger → List Nat) {e : LintError}
    (h : readAll name source (neededParsers parsers (invocations config rules.rules)) = .error e) :
    (runLogged schedule config rules parsers name source).events =
      (readLogged name source (neededParsers parsers (invocations config rules.rules))).events := by
  have houtcome : (readLogged name source (neededParsers parsers (invocations config rules.rules))).outcome =
      .error (.error e) := by
    rw [outcome_readLogged, h]
    rfl
  exact Logged.events_bind_of_error houtcome _

/-- When the source is accepted the rules have their turns after that. -/
theorem events_runLogged_of_read (schedule : Ledger → List Nat) {documents : List Document}
    (hread : readAll name source (neededParsers parsers (invocations config rules.rules)) = .ok documents) :
    (runLogged schedule config rules parsers name source).events =
      (neededParsers parsers (invocations config rules.rules)).map .read ++
        ((invocations config rules.rules).foldlM (callLogged documents (lineBound documents source)) .empty).events := by
  have houtcome : (readLogged name source (neededParsers parsers (invocations config rules.rules))).outcome =
      .ok documents := by
    rw [outcome_readLogged, hread]
    rfl
  unfold runLogged
  simp only []
  rw [Logged.events_bind_of_ok houtcome, Logged.events_bind_pure, events_readLogged_of_ok hread]

theorem events_runLogged_of_ok (schedule : Ledger → List Nat) {record : PassRecord}
    (h : runWith schedule config rules parsers name source = .ok record) :
    ∃ documents,
      readAll name source (neededParsers parsers (invocations config rules.rules)) = .ok documents ∧
      (runLogged schedule config rules parsers name source).events =
        (neededParsers parsers (invocations config rules.rules)).map .read ++
          (invocations config rules.rules).flatMap (turnOf documents) := by
  obtain ⟨documents, hread, hrest⟩ := bind_eq_ok_iff.mp h
  rw [mapError_eq_ok_iff] at hread
  obtain ⟨called, hcalled, -⟩ := bind_eq_ok_iff.mp hrest
  exact ⟨documents, hread, by rw [events_runLogged_of_read schedule hread, events_foldlM_of_ok hcalled]⟩

/-- All parsers that enabled rules need, for each kind the first that is registered, read the source before
anything of a rule runs, each of them once and in the order of the kinds, up to the first that rejects it. If one
does, the pass ends with what that one says, and nothing of a rule has run; no pass ends with an error otherwise.
In a pass with a result all of them read the source, and then the rules have their turns. The built-in parsers
reject a source for its first NUL character and for nothing else, so with them a pass in which some rule is enabled
ends with an error exactly if there is one. -/
theorem parsers_before_rules (schedule : Ledger → List Nat) (config : Config) (rules : RuleSet)
    (parsers : List Parser) (name source : String) :
    (runLogged schedule config rules parsers name source).outcome =
      runWith schedule config rules parsers name source ∧
    ((∃ e, runWith schedule config rules parsers name source = .error (.error e)) ↔
      ∃ inv ∈ invocations config rules.rules, ∃ cause, Rejects parsers source inv.parser cause) ∧
    (∀ e, runWith schedule config rules parsers name source = .error (.error e) ↔
      ∃ inv ∈ invocations config rules.rules, ∃ cause, Rejects parsers source inv.parser cause ∧
        Reaches parsers source (invocations config rules.rules) inv.parser ∧ e = .parse cause) ∧
    (∀ e, runWith schedule config rules parsers name source = .error (.error e) →
      ∀ event ∈ (runLogged schedule config rules parsers name source).events, ∃ p, event = .read p) ∧
    ((runLogged schedule config rules parsers name source).reads.Pairwise
      fun p q => p.kind.rank < q.kind.rank) ∧
    (∀ p, p ∈ (runLogged schedule config rules parsers name source).reads ↔
      (∃ inv ∈ invocations config rules.rules, findParser parsers inv.parser = some p) ∧
        Reaches parsers source (invocations config rules.rules) p.kind) ∧
    (∀ record, runWith schedule config rules parsers name source = .ok record →
      ∃ documents,
        readAll name source (neededParsers parsers (invocations config rules.rules)) = .ok documents ∧
        (runLogged schedule config rules parsers name source).events =
          (neededParsers parsers (invocations config rules.rules)).map .read ++
            (invocations config rules.rules).flatMap (turnOf documents)) ∧
    ∀ e, runWith schedule config rules Parser.builtin name source = .error (.error e) ↔
      invocations config rules.rules ≠ [] ∧
        ∃ before after, source.toList = before ++ '\x00' :: after ∧ '\x00' ∉ before ∧
          e = .parse (.invalidSource "source contains a NUL byte" (some (Text.byteLength before))) := by
  refine ⟨?outcome, ?exists_error, ?smallest, ?untouched, ?once, ?needed, ?turns, ?builtin⟩
  case outcome => exact outcome_runLogged schedule config rules parsers name source
  case exists_error =>
    simp only [runWith_eq_lintError_iff]
    exact exists_readAll_error_iff name
  case smallest =>
    intro e
    rw [runWith_eq_lintError_iff]
    exact readAll_needed_eq_error_iff
  case untouched =>
    intro e h event hevent
    rw [runWith_eq_lintError_iff] at h
    rw [events_runLogged_of_error schedule h] at hevent
    exact eq_read_of_mem_events hevent
  case once =>
    rw [reads_runLogged]
    exact (neededParsers_sorted ..).sublist (reads_readLogged_isPrefix ..).sublist
  case needed =>
    intro p
    rw [reads_runLogged]
    exact mem_reads_iff
  case turns =>
    intro record h
    exact events_runLogged_of_ok schedule h
  case builtin =>
    intro e
    rw [runWith_eq_lintError_iff]
    exact readAll_builtin_eq_error_iff

end Passes

/-- With a rule that is enabled, the built-in parsers stop at a NUL character. -/
theorem stopped_at_nul :
    invocations .standard brokenRules.rules ≠ [] ∧
      runWith Ledger.roundRobin .standard brokenRules Parser.builtin "a.txt" "é\x00" =
        .error (.error (.parse (.invalidSource "source contains a NUL byte" (some 2)))) := by
  have henabled : invocations .standard brokenRules.rules ≠ [] := by
    change [panickingRule, failingRule].filterMap _ ≠ []
    exact List.cons_ne_nil _ _
  obtain ⟨-, -, -, -, -, -, -, hbuiltin⟩ :=
    parsers_before_rules Ledger.roundRobin .standard brokenRules Parser.builtin "a.txt" "é\x00"
  exact ⟨henabled, (hbuiltin _).mpr ⟨henabled, ['é'], [], rfl, by decide, rfl⟩⟩

/-- A kind that comes after one that is rejected is needed and is not read all the same: at a NUL character the parser
of Markdown stops the pass before that of plain text. -/
theorem unread_after_nul :
    .text ∈ (invocations .standard refusedRules.rules).map Invocation.parser ∧
    (runLogged Ledger.roundRobin .standard refusedRules Parser.builtin "a.md" "é\x00").reads.map Parser.kind =
      [.markdown] ∧
    ¬ ∀ (schedule : Ledger → List Nat) (config : Config) (rules : RuleSet) (parsers : List Parser)
      (name source : String), ∀ inv ∈ invocations config rules.rules, ∀ p, findParser parsers inv.parser = some p →
      ((runLogged schedule config rules parsers name source).reads.map Parser.kind).count inv.parser = 1 := by
  have hneeded : .text ∈ (invocations .standard refusedRules.rules).map Invocation.parser := by decide +kernel
  have hreads : (runLogged Ledger.roundRobin .standard refusedRules Parser.builtin "a.md" "é\x00").reads.map
      Parser.kind = [.markdown] := by
    rw [reads_runLogged]
    rfl
  refine ⟨hneeded, hreads, ?_⟩
  intro hclaim
  obtain ⟨inv, hinv, htext⟩ := List.mem_map.mp hneeded
  have hcount := hclaim Ledger.roundRobin .standard refusedRules Parser.builtin "a.md" "é\x00" inv hinv .plainText
    (by rw [htext]; rfl)
  rw [hreads, htext] at hcount
  exact absurd hcount (by decide)

end Pass

end DocLint
