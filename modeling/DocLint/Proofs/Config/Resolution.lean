import DocLint.Config
import DocLint.Proofs.Lookup
import Mathlib.Data.List.DropRight
import Mathlib.Data.List.Induction

/-!
# The settings of a rule in closed form

The entries of a rule are those under its tags and under its names, in any case of letters. They are applied one
after the other, those of the tags before those of the names. What comes out is told by the last entry and by the
entries after the last one that disables: the default and all that was set earlier leave no trace.
-/

namespace DocLint

set_option autoImplicit false

namespace RuleOption

/-- An entry that disables its rules. -/
def Disables (o : RuleOption) : Prop :=
  o = .enabled false ∨ o = .severity "off"

/-- The options that an entry holds. -/
def options? : RuleOption → Option Json
  | options v => some v
  | _ => none

theorem isEnabled_eq_false_iff {o : RuleOption} : o.isEnabled = false ↔ o.Disables := by
  cases o <;> simp [isEnabled, Disables]

theorem isEnabled_eq_true_iff {o : RuleOption} : o.isEnabled = true ↔ ¬ o.Disables := by
  rw [← isEnabled_eq_false_iff, Bool.not_eq_false]

theorem severity?_eq_some_iff {o : RuleOption} {s : Severity} :
    o.severity? = some s ↔ o = .severity s.name := by
  constructor
  · intro h
    cases o with
    | enabled b => simp [severity?] at h
    | options v => simp [severity?] at h
    | severity name =>
      simp only [severity?, Severity.ofName?] at h
      split at h
      · next hname =>
        obtain rfl := Option.some.inj h
        rw [eq_of_beq hname, Severity.name]
      · split at h
        · next hname =>
          obtain rfl := Option.some.inj h
          rw [eq_of_beq hname, Severity.name]
        · simp at h
  · rintro rfl
    exact Severity.ofName?_name s

theorem options?_eq_some_iff {o : RuleOption} {v : Json} : o.options? = some v ↔ o = .options v := by
  cases o <;> simp [options?]

end RuleOption

/-- The last of some entries that is of a given form. -/
def IsLastOf {α : Type} (form : α → RuleOption) (entries : List RuleOption) (a : α) : Prop :=
  ∃ before after, entries = before ++ form a :: after ∧ ∀ o ∈ after, ∀ b, o ≠ form b

theorem getLast?_filterMap_of_isLastOf {α : Type} {form : α → RuleOption} {read : RuleOption → Option α}
    (hread : ∀ o a, read o = some a ↔ o = form a) {entries : List RuleOption} {a : α}
    (h : IsLastOf form entries a) : (entries.filterMap read).getLast? = some a := by
  obtain ⟨before, after, rfl, hafter⟩ := h
  have hnone : after.filterMap read = [] := by
    rw [List.filterMap_eq_nil_iff]
    intro o ho
    rw [Option.eq_none_iff_forall_ne_some]
    intro b hb
    exact hafter o ho b ((hread o b).mp hb)
  rw [List.filterMap_append, List.filterMap_cons_some ((hread _ a).mpr rfl), hnone,
    List.getLast?_concat]

theorem filterMap_eq_nil_of_forall_ne {α : Type} {form : α → RuleOption} {read : RuleOption → Option α}
    (hread : ∀ o a, read o = some a ↔ o = form a) {entries : List RuleOption}
    (h : ∀ o ∈ entries, ∀ b, o ≠ form b) : entries.filterMap read = [] := by
  rw [List.filterMap_eq_nil_iff]
  intro o ho
  rw [Option.eq_none_iff_forall_ne_some]
  intro b hb
  exact h o ho b ((hread o b).mp hb)

namespace Settings

/-- The settings that some entries make up, none of which disables. -/
def ofEntries (entries : List RuleOption) : Settings where
  severity := (entries.filterMap RuleOption.severity?).getLast?.getD .error
  options := (entries.filterMap RuleOption.options?).getLast?.getD .null

/-- What the settings that some entries make up are: the last severity and the last options. -/
structure SetBy (entries : List RuleOption) (s : Settings) : Prop where
  severity : ∀ level : Severity, IsLastOf (fun l : Severity => .severity l.name) entries level →
    s.severity = level
  noSeverity : (∀ o ∈ entries, ∀ level : Severity, o ≠ .severity level.name) → s.severity = .error
  options : ∀ v, IsLastOf RuleOption.options entries v → s.options = v
  noOptions : (∀ o ∈ entries, ∀ v, o ≠ .options v) → s.options = .null

theorem setBy_ofEntries (entries : List RuleOption) : SetBy entries (ofEntries entries) := by
  have hseverity (o : RuleOption) (level : Severity) :
      o.severity? = some level ↔ o = .severity level.name := RuleOption.severity?_eq_some_iff
  have hoptions (o : RuleOption) (v : Json) : o.options? = some v ↔ o = .options v :=
    RuleOption.options?_eq_some_iff
  refine ⟨?_, ?_, ?_, ?_⟩
  · intro level hlast
    rw [ofEntries, getLast?_filterMap_of_isLastOf hseverity hlast, Option.getD_some]
  · intro hnone
    rw [ofEntries, filterMap_eq_nil_of_forall_ne hseverity hnone]
    rfl
  · intro v hlast
    rw [ofEntries, getLast?_filterMap_of_isLastOf hoptions hlast, Option.getD_some]
  · intro hnone
    rw [ofEntries, filterMap_eq_nil_of_forall_ne hoptions hnone]
    rfl

end Settings

namespace Config

/-- What is found under a name: an entry under it in any case of letters, if there is one, and one that is spelled
like the name before all others. -/
structure Finds (c : Config) (n : String) (found : Option RuleOption) : Prop where
  entry : ∀ o, found = some o → ∃ k, (k, o) ∈ c.options ∧ Text.eqIgnoreCase k n = true
  something : ∀ k o, (k, o) ∈ c.options → Text.eqIgnoreCase k n = true → ∃ o', found = some o'
  spelled : ∀ o, c.options.lookup n = some o → found = some o

section Finds
variable {c : Config} {k n : String} {o : RuleOption}

/-- What is found under a key is an entry under it. -/
theorem mem_of_option? (h : c.option? n = some o) :
    ∃ k, (k, o) ∈ c.options ∧ Text.eqIgnoreCase k n = true := by
  unfold option? at h
  split at h
  · next o' hexact =>
    obtain rfl := Option.some.inj h
    exact ⟨n, mem_of_lookup hexact, Text.eqIgnoreCase_refl n⟩
  · obtain ⟨⟨k, o'⟩, hfound, rfl⟩ := Option.map_eq_some_iff.mp h
    have hk := List.find?_some hfound
    exact ⟨k, List.mem_of_find?_eq_some hfound, hk⟩

/-- Something is found under every key that has an entry. -/
theorem exists_option? (hmem : (k, o) ∈ c.options) (hk : Text.eqIgnoreCase k n = true) :
    ∃ o', c.option? n = some o' := by
  rw [← Option.ne_none_iff_exists']
  intro hnone
  unfold option? at hnone
  split at hnone
  · cases hnone
  · rw [Option.map_eq_none_iff, List.find?_eq_none] at hnone
    exact hnone (k, o) hmem hk

theorem finds_option? (c : Config) (n : String) : Finds c n (c.option? n) := by
  refine ⟨fun o => mem_of_option?, fun k o => exists_option?, ?_⟩
  intro o hexact
  rw [option?, hexact]

end Finds

/-- The entries that are found for a rule, the later ones overriding: those of its tags, then those of its
names. -/
def entries (c : Config) (d : Descriptor) : List RuleOption :=
  (d.tags ++ d.names).filterMap c.option?

/-- The entries after the last one that disables. -/
def SinceDisabled (entries live : List RuleOption) : Prop :=
  ∃ before, entries = before ++ live ∧ (∀ o ∈ live, ¬ o.Disables) ∧
    ∀ o, before.getLast? = some o → o.Disables

theorem sinceDisabled_rtakeWhile (entries : List RuleOption) :
    SinceDisabled entries (entries.rtakeWhile RuleOption.isEnabled) := by
  refine ⟨entries.rdropWhile RuleOption.isEnabled, ?_, ?_, ?_⟩
  · exact List.rdropWhile_append_rtakeWhile.symm
  · intro o ho
    exact RuleOption.isEnabled_eq_true_iff.mp (List.mem_rtakeWhile_imp ho)
  · intro o ho
    obtain ⟨hne, hlast⟩ := List.mem_getLast?_eq_getLast ho
    rw [← RuleOption.isEnabled_eq_false_iff, hlast]
    simpa using List.rdropWhile_last_not RuleOption.isEnabled entries hne

section Override
variable {start : Option Settings}

theorem override_of_disables {current : Option Settings} {o : RuleOption} (h : o.Disables) :
    override current o = none := by
  rw [override, RuleOption.isEnabled_eq_false_iff.mpr h]
  rfl

/-- An entry that does not disable sets what it holds and keeps the rest. -/
theorem override_of_not_disables (current : Option Settings) {o : RuleOption} (h : ¬ o.Disables) :
    override current o = some
      ⟨o.severity?.getD (current.getD .standard).severity, o.options?.getD (current.getD .standard).options⟩ := by
  rw [override, RuleOption.isEnabled_eq_true_iff.mpr h]
  cases o <;> rfl

theorem ofEntries_append_singleton (entries : List RuleOption) (o : RuleOption) :
    Settings.ofEntries (entries ++ [o]) =
      ⟨o.severity?.getD (Settings.ofEntries entries).severity,
        o.options?.getD (Settings.ofEntries entries).options⟩ := by
  unfold Settings.ofEntries
  rw [List.filterMap_append, List.filterMap_append]
  cases hseverity : o.severity? <;> cases hoptions : o.options? <;> simp [hseverity, hoptions]

/-- After any entries, what is set was set since the last one that disables. -/
theorem getD_foldl_override (hstart : start.getD .standard = .standard) (entries : List RuleOption) :
    (entries.foldl override start).getD .standard =
      Settings.ofEntries (entries.rtakeWhile RuleOption.isEnabled) := by
  induction entries using List.reverseRecOn with
  | nil => exact hstart
  | append_singleton entries o ih =>
    rw [List.foldl_append, List.foldl_cons, List.foldl_nil, List.rtakeWhile_concat]
    by_cases ho : o.Disables
    · rw [override_of_disables ho, RuleOption.isEnabled_eq_false_iff.mpr ho]
      rfl
    · rw [override_of_not_disables _ ho, RuleOption.isEnabled_eq_true_iff.mpr ho, if_pos rfl,
        ofEntries_append_singleton, ih, Option.getD_some]

theorem foldl_override_eq_none_iff (entries : List RuleOption) :
    entries.foldl override start = none ↔
      (∃ o, entries.getLast? = some o ∧ o.Disables) ∨ entries = [] ∧ start = none := by
  induction entries using List.reverseRecOn with
  | nil => simp
  | append_singleton entries o _ =>
    rw [List.foldl_append, List.foldl_cons, List.foldl_nil]
    by_cases ho : o.Disables
    · simp [override_of_disables ho, ho]
    · simp [override_of_not_disables _ ho, ho]

end Override

section Resolve
variable (c : Config) (d : Descriptor)

theorem resolve_eq_foldl :
    c.resolve d = (c.entries d).foldl override (if c.enabledByDefault then some .standard else none) := rfl

theorem resolve_eq_none_iff :
    c.resolve d = none ↔
      (∃ o, (c.entries d).getLast? = some o ∧ o.Disables) ∨
        c.entries d = [] ∧ c.enabledByDefault = false := by
  rw [resolve_eq_foldl, foldl_override_eq_none_iff]
  cases c.enabledByDefault <;> simp

theorem resolve_eq_ofEntries (h : c.resolve d ≠ none) :
    c.resolve d = some (.ofEntries ((c.entries d).rtakeWhile RuleOption.isEnabled)) := by
  have hstart : (if c.enabledByDefault then some Settings.standard else none).getD .standard =
      .standard := by
    cases c.enabledByDefault <;> rfl
  obtain ⟨settings, hsettings⟩ := Option.ne_none_iff_exists'.mp h
  have hlive := getD_foldl_override hstart (c.entries d)
  rw [← resolve_eq_foldl, hsettings, Option.getD_some] at hlive
  rw [hsettings, hlive]

/-- The last entry of the names comes after all those of the tags. -/
theorem getLast?_entries {o : RuleOption} (h : (d.names.filterMap c.option?).getLast? = some o) :
    (c.entries d).getLast? = some o := by
  rw [entries, List.filterMap_append, List.getLast?_append, h, Option.some_or]

/-- After an entry that disables, it makes no difference what came before. -/
theorem resolve_of_disables {before after : List RuleOption} {o : RuleOption}
    (h : c.entries d = before ++ o :: after) (ho : o.Disables) :
    c.resolve d = after.foldl override none := by
  rw [resolve_eq_foldl, h, List.foldl_append, List.foldl_cons, override_of_disables ho]

/-- Under each tag and name an entry is found if there is one, in any case of letters. A rule is disabled if its
last entry disables it, or if it has no entry and is disabled by default. Else its severity and its options are the
last ones that were set since it was last disabled. So the last entry of its names decides whether it is enabled,
and two rules that were disabled at some time and have the same entries after that have the same settings. -/
theorem resolve_closed_form :
    (∀ n, Finds c n (c.option? n)) ∧
    (c.resolve d = none ↔
      (∃ o, (c.entries d).getLast? = some o ∧ o.Disables) ∨
        c.entries d = [] ∧ c.enabledByDefault = false) ∧
    (c.resolve d ≠ none →
      ∃ live settings, SinceDisabled (c.entries d) live ∧ c.resolve d = some settings ∧
        settings.SetBy live) ∧
    (∀ o, (d.names.filterMap c.option?).getLast? = some o → (c.resolve d = none ↔ o.Disables)) ∧
    (∀ before o after, c.entries d = before ++ o :: after → o.Disables →
      ∀ (c' : Config) (d' : Descriptor) before' o', c'.entries d' = before' ++ o' :: after → o'.Disables →
        c.resolve d = c'.resolve d') := by
  refine ⟨finds_option? c, resolve_eq_none_iff c d, ?_, ?_, ?_⟩
  · intro henabled
    exact ⟨_, _, sinceDisabled_rtakeWhile (c.entries d), resolve_eq_ofEntries c d henabled,
      Settings.setBy_ofEntries _⟩
  · intro o ho
    have hlast := getLast?_entries c d ho
    have hne : c.entries d ≠ [] := by
      intro hnil
      simp [hnil] at hlast
    simp [resolve_eq_none_iff, hlast, hne]
  · intro before o after hentries ho c' d' before' o' hentries' ho'
    rw [resolve_of_disables c d hentries ho, resolve_of_disables c' d' hentries' ho']

end Resolve

end Config

end DocLint
