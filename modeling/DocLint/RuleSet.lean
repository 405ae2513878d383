import DocLint.Rule

/-!
# Sets of rules

Rules are kept in the order in which they were registered. No two names in a set are equal when the
case of letters is ignored.
-/

namespace DocLint

set_option autoImplicit false

/-- Names of which no two are equal when the case of letters is ignored. -/
def DistinctNames (names : List String) : Prop :=
  names.Pairwise fun a b => Text.eqIgnoreCase a b = false

instance (names : List String) : Decidable (DistinctNames names) :=
  inferInstanceAs (Decidable (List.Pairwise _ _))

/-- A set of rules. -/
structure RuleSet where
  rules : List Rule
  distinct : DistinctNames (rules.flatMap fun r => r.descriptor.names)

namespace RuleSet

/-- The set without rules. -/
def empty : RuleSet :=
  ⟨[], List.Pairwise.nil⟩

def hasName (set : RuleSet) (name : String) : Bool :=
  set.rules.any fun r => r.descriptor.hasName name

/-- The first of some names that is taken, in the set or by an earlier one of the names. -/
def firstTaken (set : RuleSet) (earlier : List String) : List String → Option String
  | [] => none
  | n :: rest =>
    if set.hasName n || earlier.any (Text.eqIgnoreCase n) then some n
    else set.firstTaken (n :: earlier) rest

theorem hasName_eq_false_iff (set : RuleSet) (name : String) :
    set.hasName name = false ↔
      ∀ n ∈ set.rules.flatMap fun r => r.descriptor.names, Text.eqIgnoreCase n name = false := by
  simp only [hasName, Descriptor.hasName, List.any_eq_false, Bool.not_eq_true, List.mem_flatMap]
  constructor
  · rintro h n ⟨r, hr, hn⟩
    exact h r hr n hn
  · exact fun h r hr n hn => h n ⟨r, hr, hn⟩

/-- Names of which none is taken differ from each other, from the earlier ones and from those in the set. -/
theorem distinct_of_firstTaken_eq_none (set : RuleSet) {earlier names : List String}
    (h : set.firstTaken earlier names = none) :
    DistinctNames names ∧ ∀ n ∈ names, set.hasName n = false ∧
      ∀ m ∈ earlier, Text.eqIgnoreCase n m = false := by
  induction names generalizing earlier with
  | nil => exact ⟨List.Pairwise.nil, by simp⟩
  | cons n rest ih =>
    simp only [firstTaken] at h
    split at h
    · simp at h
    · rename_i hfree
      simp only [Bool.or_eq_true, not_or, Bool.not_eq_true, List.any_eq_false] at hfree
      obtain ⟨hrest, hall⟩ := ih h
      refine ⟨List.pairwise_cons.mpr ⟨?_, hrest⟩, ?_⟩
      · intro m hm
        have hmn := (hall m hm).2 n List.mem_cons_self
        rwa [Text.eqIgnoreCase_comm] at hmn
      · intro m hm
        rcases List.mem_cons.mp hm with rfl | hm
        · exact ⟨hfree.1, fun k hk => by simpa using hfree.2 k hk⟩
        · exact ⟨(hall m hm).1, fun k hk => (hall m hm).2 k (List.mem_cons_of_mem _ hk)⟩

/-- The names of a set stay distinct when a rule of which no name is taken is added. -/
theorem distinct_add (set : RuleSet) {rule : Rule}
    (h : set.firstTaken [] rule.descriptor.names = none) :
    DistinctNames ((set.rules ++ [rule]).flatMap fun r => r.descriptor.names) := by
  obtain ⟨hnew, hfree⟩ := set.distinct_of_firstTaken_eq_none h
  rw [List.flatMap_append, List.flatMap_singleton]
  refine List.pairwise_append.mpr ⟨set.distinct, hnew, ?_⟩
  intro old hold n hn
  exact (set.hasName_eq_false_iff n).mp (hfree n hn).1 old hold

/-- Adds a rule at the end, unless one of its names is taken. -/
def register (set : RuleSet) (rule : Rule) : Except DefinitionError RuleSet :=
  match h : set.firstTaken [] rule.descriptor.names with
  | some name => .error (.duplicateName name)
  | none => .ok ⟨set.rules ++ [rule], set.distinct_add h⟩

/-- Registers rules in order. -/
def registerAll (set : RuleSet) : List Rule → Except DefinitionError RuleSet
  | [] => .ok set
  | r :: rest => do
    let set ← set.register r
    set.registerAll rest

/-- The rule that has a name, in any case. -/
def get? (set : RuleSet) (name : String) : Option Rule :=
  set.rules.find? fun r => r.descriptor.hasName name

/-- The number of rules. -/
def size (set : RuleSet) : Nat :=
  set.rules.length

/-- Whether there are no rules. -/
def isEmpty (set : RuleSet) : Bool :=
  set.rules.isEmpty

/-- The primary names of the rules. -/
def names (set : RuleSet) : List String :=
  set.rules.map Rule.name

/-- The primary names of the rules differ. -/
theorem pairwise_name_ne (set : RuleSet) : set.rules.Pairwise fun r s => r.name ≠ s.name := by
  have hblocks := (List.pairwise_flatMap.mp set.distinct).2
  refine hblocks.imp ?_
  intro r s hrs heq
  have hne := hrs r.name r.name_mem_names s.name s.name_mem_names
  simp [heq] at hne

end RuleSet

end DocLint
