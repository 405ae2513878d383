import DocLint.Proofs.Config.Resolution
import DocLint.Proofs.Config.Spelling

/-!
# Entries that set a severity

An entry that enables rules, with or without a severity, says nothing else of them. When it is replaced by another
one of its kind the same rules are enabled, with the same options, and the severity changes of those rules only
that have its key among their names and tags.
-/

namespace DocLint

set_option autoImplicit false

namespace RuleOption

/-- An entry that enables rules and sets no options. -/
inductive Plain : RuleOption → Prop where
  | enabled : Plain (.enabled true)
  | error : Plain (.severity "error")
  | warning : Plain (.severity "warning")

/-- What an entry says beside a severity. -/
def apart (o : RuleOption) : Bool × Option Json :=
  (o.isEnabled, o.options?)

theorem Plain.apart_eq {o : RuleOption} (h : o.Plain) : o.apart = (true, none) := by
  cases h <;> rfl

end RuleOption

namespace Config

/-- What is set beside the severity is a matter of what was set and of what the entry says beside a severity. -/
theorem options_override (current : Option Settings) (o : RuleOption) :
    (override current o).map Settings.options =
      if o.apart.1 then some (o.apart.2.getD ((current.map Settings.options).getD .null)) else none := by
  by_cases ho : o.Disables
  · rw [override_of_disables ho, RuleOption.apart, RuleOption.isEnabled_eq_false_iff.mpr ho]
    rfl
  · rw [override_of_not_disables current ho, RuleOption.apart, RuleOption.isEnabled_eq_true_iff.mpr ho]
    cases current <;> rfl

section Replaced
variable {c : Config} {d : Descriptor}

theorem options_resolve_eq (c' : Config) (hdefault : c.enabledByDefault = c'.enabledByDefault)
    (h : ∀ n ∈ d.keys, (c.option? n).map RuleOption.apart = (c'.option? n).map RuleOption.apart) :
    (c.resolve d).map Settings.options = (c'.resolve d).map Settings.options := by
  have hfold (keys : List String)
      (hkeys : ∀ n ∈ keys, (c.option? n).map RuleOption.apart = (c'.option? n).map RuleOption.apart)
      (start start' : Option Settings) (hstart : start.map Settings.options = start'.map Settings.options) :
      ((keys.filterMap c.option?).foldl override start).map Settings.options =
        ((keys.filterMap c'.option?).foldl override start').map Settings.options := by
    induction keys generalizing start start' with
    | nil => exact hstart
    | cons n rest ih =>
      obtain ⟨hn, hrest⟩ := List.forall_mem_cons.mp hkeys
      cases ho : c.option? n with
      | none =>
        rw [ho, Option.map_none, eq_comm, Option.map_eq_none_iff] at hn
        rw [List.filterMap_cons_none ho, List.filterMap_cons_none hn]
        exact ih hrest start start' hstart
      | some o =>
        rw [ho, Option.map_some, eq_comm, Option.map_eq_some_iff] at hn
        obtain ⟨o', ho', hapart⟩ := hn
        rw [List.filterMap_cons_some ho, List.filterMap_cons_some ho', List.foldl_cons, List.foldl_cons]
        apply ih hrest
        rw [options_override, options_override, hstart, hapart]
  rw [resolve, resolve, hdefault]
  exact hfold d.keys h _ _ rfl

variable {before after : List (String × RuleOption)} {k : String} {o : RuleOption} (o' : RuleOption)

/-- Where the first entry of a kind stands is a matter of the keys. -/
theorem find?_replaced (before after : List (String × RuleOption)) (o : RuleOption) (p : String → Bool) :
    ((before ++ (k, o) :: after).find? fun e => p e.1).map Prod.snd =
        ((before ++ (k, o') :: after).find? fun e => p e.1).map Prod.snd ∨
      p k = true ∧ ((before ++ (k, o) :: after).find? fun e => p e.1).map Prod.snd = some o ∧
        ((before ++ (k, o') :: after).find? fun e => p e.1).map Prod.snd = some o' := by
  rw [List.find?_append, List.find?_append]
  cases before.find? fun e => p e.1 with
  | some e => exact .inl rfl
  | none =>
    simp only [Option.none_or, List.find?_cons]
    cases p k with
    | true => exact .inr ⟨rfl, rfl, rfl⟩
    | false => exact .inl rfl

/-- An entry is found under a key or not, whatever it says. -/
theorem option?_replaced (hoptions : c.options = before ++ (k, o) :: after) (n : String) :
    c.option? n = { c with options := before ++ (k, o') :: after }.option? n ∨
      Text.eqIgnoreCase k n = true ∧ c.option? n = some o ∧
        { c with options := before ++ (k, o') :: after }.option? n = some o' := by
  unfold option?
  rw [hoptions]
  simp only [lookup_eq_find?]
  rcases find?_replaced o' before after o (n == ·) with h | ⟨hk, h, h'⟩
  · rw [h]
    cases ((before ++ (k, o') :: after).find? fun e => n == e.1).map Prod.snd with
    | some x => exact .inl rfl
    | none => exact find?_replaced o' before after o (Text.eqIgnoreCase · n)
  · rw [h, h']
    refine .inr ⟨?_, rfl, rfl⟩
    rw [← eq_of_beq hk]
    exact Text.eqIgnoreCase_refl n

theorem option?_eq_of_not_concerns (hoptions : c.options = before ++ (k, o) :: after) (hk : ¬ Concerns d k)
    {n : String} (hn : n ∈ d.keys) :
    c.option? n = { c with options := before ++ (k, o') :: after }.option? n := by
  rcases option?_replaced o' hoptions n with h | ⟨hcase, -⟩
  · exact h
  · exact absurd ⟨n, hn, hcase⟩ hk

/-- A rule that the entry does not concern keeps its settings. -/
theorem resolve_eq_of_not_concerns (hoptions : c.options = before ++ (k, o) :: after) (hk : ¬ Concerns d k) :
    { c with options := before ++ (k, o') :: after }.resolve d = c.resolve d := by
  rw [resolve, resolve, List.filterMap_congr fun n hn => option?_eq_of_not_concerns o' hoptions hk hn]

/-- Every rule keeps its options, and is enabled if it was. -/
theorem options_resolve_replaced (hoptions : c.options = before ++ (k, o) :: after) (ho : o.Plain) (ho' : o'.Plain) :
    (c.resolve d).map Settings.options =
      ({ c with options := before ++ (k, o') :: after }.resolve d).map Settings.options := by
  refine options_resolve_eq { c with options := before ++ (k, o') :: after } rfl ?_
  intro n _
  rcases option?_replaced o' hoptions n with h | ⟨-, h, h'⟩
  · rw [h]
  · rw [h, h', Option.map_some, Option.map_some, ho.apart_eq, ho'.apart_eq]

end Replaced

end Config

end DocLint
