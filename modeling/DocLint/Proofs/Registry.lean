import DocLint.Registry
import Mathlib.Data.List.Basic

/-!
# The names in a registry

The rules of a registry and its index stay in step over every sequence of registrations, also when some of them
fail. So a look-up in the index is a comparison with all names that ignores case, and a registry takes the rules
that a set of rules takes.
-/

namespace DocLint

set_option autoImplicit false

/-- The name at a place among some names is equal, when case is ignored, to a registered one or to one before
it. -/
def IsTaken (registered names : List String) (k : Nat) : Prop :=
  ∃ n, names[k]? = some n ∧ ∃ m ∈ registered ++ names.take k, Text.eqIgnoreCase n m = true

structure IsFirstTaken (registered names : List String) (k : Nat) : Prop where
  taken : IsTaken registered names k
  free_before : ∀ j < k, ¬ IsTaken registered names j

section Taken
variable {registered rest : List String} {n : String} {k : Nat}

theorem not_isTaken_nil : ¬ IsTaken registered [] k := by
  rintro ⟨n, hn, -⟩
  simp at hn

theorem isTaken_zero :
    IsTaken registered (n :: rest) 0 ↔ ∃ m ∈ registered, Text.eqIgnoreCase n m = true := by
  simp [IsTaken]

theorem isTaken_succ : IsTaken registered (n :: rest) (k + 1) ↔ IsTaken (registered ++ [n]) rest k := by
  simp [IsTaken]

end Taken

namespace RuleSet

theorem register_eq_ok {set : RuleSet} {rule : Rule} (hfree : set.firstTaken [] rule.descriptor.names = none) :
    set.register rule = .ok ⟨set.rules ++ [rule], set.distinct_add hfree⟩ := by
  unfold register
  split
  · next name htaken =>
    rw [hfree] at htaken
    cases htaken
  · rfl

theorem register_eq_error {set : RuleSet} {rule : Rule} {name : String}
    (htaken : set.firstTaken [] rule.descriptor.names = some name) :
    set.register rule = .error (.duplicateName name) := by
  unfold register
  split
  · next name' htaken' =>
    obtain rfl := Option.some.inj (htaken.symm.trans htaken')
    rfl
  · next hfree =>
    rw [htaken] at hfree
    cases hfree

/-- Either none of some names is taken, or the first one that is taken is found. -/
theorem firstTaken_cases (set : RuleSet) (earlier names registered : List String)
    (hregistered : ∀ m, m ∈ registered ↔ m ∈ (set.rules.flatMap fun r => r.descriptor.names) ∨ m ∈ earlier) :
    (set.firstTaken earlier names = none ∧ ∀ k, ¬ IsTaken registered names k) ∨
      ∃ k name, set.firstTaken earlier names = some name ∧ names[k]? = some name ∧
        IsFirstTaken registered names k := by
  induction names generalizing earlier registered with
  | nil => exact .inl ⟨rfl, fun _ => not_isTaken_nil⟩
  | cons n rest ih =>
    have hhead : (set.hasName n || earlier.any (Text.eqIgnoreCase n)) = true ↔
        IsTaken registered (n :: rest) 0 := by
      have hset := set.hasName_eq_false_iff n
      rw [isTaken_zero, Bool.or_eq_true, List.any_eq_true, ← Bool.not_eq_false, hset]
      simp only [hregistered, not_forall, Bool.not_eq_false, exists_prop, or_and_right, exists_or,
        Text.eqIgnoreCase_comm n]
    by_cases htaken : IsTaken registered (n :: rest) 0
    · refine .inr ⟨0, n, ?_, rfl, htaken, ?_⟩
      · rw [firstTaken, if_pos (hhead.mpr htaken)]
      · intro j hj
        omega
    · have hskip : set.firstTaken earlier (n :: rest) = set.firstTaken (n :: earlier) rest := by
        rw [firstTaken, if_neg (mt hhead.mp htaken)]
      have hmore : ∀ m, m ∈ registered ++ [n] ↔
          m ∈ (set.rules.flatMap fun r => r.descriptor.names) ∨ m ∈ n :: earlier := by
        intro m
        rw [List.mem_append, List.mem_singleton, List.mem_cons, hregistered]
        tauto
      rw [hskip]
      rcases ih (n :: earlier) (registered ++ [n]) hmore with ⟨hnone, hfree⟩ | ⟨k, name, hname, hget, hk⟩
      · refine .inl ⟨hnone, ?_⟩
        intro k
        cases k with
        | zero => exact htaken
        | succ k => exact mt isTaken_succ.mp (hfree k)
      · refine .inr ⟨k + 1, name, hname, hget, isTaken_succ.mpr hk.taken, ?_⟩
        intro j hj
        cases j with
        | zero => exact htaken
        | succ j => exact mt isTaken_succ.mp (hk.free_before j (by omega))

end RuleSet

namespace Registry

/-- The names of a rule in lower case. -/
def keysOf (rule : Rule) : List String :=
  rule.descriptor.names.map Text.asciiLower

theorem mem_keysOf_iff {rule : Rule} {name : String} :
    Text.asciiLower name ∈ keysOf rule ↔ rule.descriptor.hasName name = true := by
  simp only [keysOf, List.mem_map, Text.asciiLower_eq_iff, Descriptor.hasName, List.any_eq_true]

/-- The index leads from every name of a rule to the place of the rule, and nowhere else. -/
def InStep (reg : Registry) : Prop :=
  ∀ key place, reg.index.lookup key = some place ↔ ∃ rule, reg.rules[place]? = some rule ∧ key ∈ keysOf rule

theorem lookup_enter (index : List (String × Nat)) (place : Nat) (names : List String) (key : String) :
    (enter index place names).lookup key =
      if key ∈ names.map Text.asciiLower then some place else index.lookup key := by
  induction names generalizing index with
  | nil => rfl
  | cons n rest ih =>
    have hstep : enter index place (n :: rest) = enter ((Text.asciiLower n, place) :: index) place rest := rfl
    rw [hstep, ih, List.map_cons, List.lookup_cons]
    by_cases hkey : key = Text.asciiLower n
    · simp [hkey]
    · have hbeq : (key == Text.asciiLower n) = false := by simpa using hkey
      simp [hkey, hbeq]

namespace InStep
variable {reg : Registry} {set : RuleSet}

theorem isSome_lookup (h : reg.InStep) (hrules : reg.rules = set.rules) (name : String) :
    (reg.index.lookup (Text.asciiLower name)).isSome = set.hasName name := by
  rw [Bool.eq_iff_iff, Option.isSome_iff_exists, RuleSet.hasName, List.any_eq_true, ← hrules]
  constructor
  · rintro ⟨place, hplace⟩
    obtain ⟨rule, hrule, hkey⟩ := (h _ place).mp hplace
    exact ⟨rule, List.mem_of_getElem? hrule, mem_keysOf_iff.mp hkey⟩
  · rintro ⟨rule, hrule, hname⟩
    obtain ⟨place, hplace⟩ := List.mem_iff_getElem?.mp hrule
    exact ⟨place, (h _ place).mpr ⟨rule, hplace, mem_keysOf_iff.mpr hname⟩⟩

/-- Looking keys up finds the name that comparing names finds. -/
theorem firstTaken_eq (h : reg.InStep) (hrules : reg.rules = set.rules) (earlier names : List String) :
    reg.firstTaken (earlier.map Text.asciiLower) names = set.firstTaken earlier names := by
  induction names generalizing earlier with
  | nil => rfl
  | cons n rest ih =>
    have hearlier : (earlier.map Text.asciiLower).contains (Text.asciiLower n) =
        earlier.any (Text.eqIgnoreCase n) := by
      rw [Bool.eq_iff_iff, List.contains_iff_mem, List.mem_map, List.any_eq_true]
      simp only [Text.asciiLower_eq_iff, Text.eqIgnoreCase_comm n]
    rw [firstTaken, RuleSet.firstTaken, h.isSome_lookup hrules, hearlier, ← ih (n :: earlier)]
    rfl

/-- Adding a rule of which no name is taken keeps rules and index in step. -/
theorem add (h : reg.InStep) (hrules : reg.rules = set.rules) {rule : Rule}
    (hfree : ∀ n ∈ rule.descriptor.names, set.hasName n = false) : (reg.add rule).InStep := by
  intro key place
  have hold : key ∈ keysOf rule → reg.index.lookup key = none := by
    intro hkey
    obtain ⟨n, hn, rfl⟩ := List.mem_map.mp hkey
    rw [← Option.not_isSome_iff_eq_none, h.isSome_lookup hrules, hfree n hn]
    exact Bool.false_ne_true
  rw [Registry.add, lookup_enter]
  simp only []
  rcases Nat.lt_trichotomy place reg.rules.length with hlt | rfl | hgt
  · rw [List.getElem?_append_left hlt, ← h key place]
    split
    · next hkey =>
      rw [hold hkey]
      simp only [Option.some.injEq, reduceCtorEq, iff_false]
      omega
    · rfl
  · rw [List.getElem?_concat_length]
    split
    · next hkey => exact ⟨fun _ => ⟨rule, rfl, hkey⟩, fun _ => rfl⟩
    · next hkey =>
      have hnone : reg.rules[reg.rules.length]? = none := List.getElem?_eq_none (Nat.le_refl _)
      rw [h key, hnone]
      constructor
      · rintro ⟨_, hrule, _⟩
        cases hrule
      · rintro ⟨rule', hrule, hkey'⟩
        obtain rfl := Option.some.inj hrule
        exact absurd hkey' hkey
  · have hnone : reg.rules[place]? = none := List.getElem?_eq_none (Nat.le_of_lt hgt)
    have hnone' : (reg.rules ++ [rule])[place]? = none := List.getElem?_eq_none (by simp; omega)
    have hlookup := h key place
    rw [hnone] at hlookup
    rw [hnone']
    split
    · simp only [Option.some.injEq, reduceCtorEq, false_and, exists_false, iff_false]
      omega
    · rw [hlookup]

/-- One of the rules is found by a name exactly if it has the name. -/
theorem get?_eq_some_iff (h : reg.InStep) {name : String} {rule : Rule} :
    reg.get? name = some rule ↔ rule ∈ reg.rules ∧ rule.descriptor.hasName name = true := by
  rw [get?, Option.bind_eq_some_iff, List.mem_iff_getElem?]
  constructor
  · rintro ⟨place, hplace, hrule⟩
    obtain ⟨rule', hrule', hkey⟩ := (h _ place).mp hplace
    obtain rfl : rule' = rule := Option.some.inj (hrule'.symm.trans hrule)
    exact ⟨⟨place, hrule⟩, mem_keysOf_iff.mp hkey⟩
  · rintro ⟨⟨place, hrule⟩, hname⟩
    exact ⟨place, (h _ place).mpr ⟨rule, hrule, mem_keysOf_iff.mpr hname⟩, hrule⟩

end InStep

section Runs
variable {reg : Registry} {set : RuleSet}

/-- A registry takes a rule when the set of its rules does, and otherwise tells the same name. -/
theorem register_cases (h : reg.InStep) (hrules : reg.rules = set.rules) (rule : Rule) :
    (∃ set', set.register rule = .ok set' ∧ (reg.add rule).rules = set'.rules ∧ (reg.add rule).InStep ∧
        reg.register rule = (.ok (), reg.add rule) ∧
        ∀ k, ¬ IsTaken (reg.rules.flatMap fun r => r.descriptor.names) rule.descriptor.names k) ∨
      ∃ k name, set.register rule = .error (.duplicateName name) ∧
        reg.register rule = (.error (.duplicateName name), reg) ∧ rule.descriptor.names[k]? = some name ∧
        IsFirstTaken (reg.rules.flatMap fun r => r.descriptor.names) rule.descriptor.names k := by
  have hfirst := h.firstTaken_eq hrules [] rule.descriptor.names
  rw [List.map_nil] at hfirst
  have hregistered : ∀ m, m ∈ (reg.rules.flatMap fun r => r.descriptor.names) ↔
      m ∈ (set.rules.flatMap fun r => r.descriptor.names) ∨ m ∈ [] := by
    intro m
    rw [hrules]
    simp
  rcases set.firstTaken_cases [] rule.descriptor.names _ hregistered with
    ⟨hnone, hfree⟩ | ⟨k, name, hname, hget, hk⟩
  · left
    have hnew := (set.distinct_of_firstTaken_eq_none hnone).2
    refine ⟨_, RuleSet.register_eq_ok hnone, ?_, h.add hrules fun n hn => (hnew n hn).1, ?_, hfree⟩
    · rw [add, hrules]
    · rw [register, hfirst, hnone]
  · right
    refine ⟨k, name, RuleSet.register_eq_error hname, ?_, hget, hk⟩
    rw [register, hfirst, hname]

/-- A set of rules and the registry of its rules find the same rules and take the same rules. -/
theorem agrees_with_ruleSet (h : reg.InStep) (hrules : reg.rules = set.rules) :
    (∀ name, set.get? name = reg.get? name) ∧
      ∀ rule, (set.register rule).map RuleSet.rules =
        (reg.register rule).1.map fun _ => (reg.register rule).2.rules := by
  constructor
  · intro name
    rw [RuleSet.get?, ← hrules]
    cases hfind : reg.rules.find? fun rule => rule.descriptor.hasName name with
    | none =>
      rw [List.find?_eq_none] at hfind
      symm
      rw [Option.eq_none_iff_forall_ne_some]
      intro rule hrule
      obtain ⟨hmem, hname⟩ := h.get?_eq_some_iff.mp hrule
      exact hfind rule hmem hname
    | some rule =>
      have hname : rule.descriptor.hasName name = true := by simpa using List.find?_some hfind
      symm
      exact h.get?_eq_some_iff.mpr ⟨List.mem_of_find?_eq_some hfind, hname⟩
  · intro rule
    rcases register_cases h hrules rule with ⟨set', hset', hrules', -, hregister, -⟩ | ⟨_, _, hset, hregister, -⟩
    · rw [hset', hregister]
      exact congrArg Except.ok hrules'.symm
    · rw [hset, hregister]
      rfl

end Runs

end Registry

end DocLint
