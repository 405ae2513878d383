import DocLint.Proofs.Config.Resolution
import DocLint.RuleSet
import Mathlib.Logic.Relation

/-!
# The spelling of keys

A rule has the entries under its names and tags, in any case of letters. When no two keys are equal but for
their case, there is one entry at most under each name, and it is found wherever it stands. So a rule has its
settings from its keys in lower case and from the entries under these, in any order.
-/

namespace DocLint

set_option autoImplicit false

namespace Config

/-- Whether a key is a name or a tag of a rule, in any case. -/
def Concerns (d : Descriptor) (key : String) : Prop :=
  ∃ n ∈ d.keys, Text.eqIgnoreCase key n = true

/-- Changes of a configuration and of the description of a rule that do not matter to the rule. -/
inductive Immaterial : Config × Descriptor → Config × Descriptor → Prop where
  | key {c : Config} {d : Descriptor} {before after : List (String × RuleOption)} {k k' : String}
      {o : RuleOption} :
    c.options = before ++ (k, o) :: after → Text.eqIgnoreCase k k' = true →
    Immaterial (c, d) ({ c with options := before ++ (k', o) :: after }, d)
  | name {c : Config} {d : Descriptor} {before after : List String} {n n' : String} :
    d.names = before ++ n :: after → Text.eqIgnoreCase n n' = true →
    Immaterial (c, d) (c, { d with names := before ++ n' :: after })
  | tag {c : Config} {d : Descriptor} {before after : List String} {n n' : String} :
    d.tags = before ++ n :: after → Text.eqIgnoreCase n n' = true →
    Immaterial (c, d) (c, { d with tags := before ++ n' :: after })
  | order {c : Config} {d : Descriptor} {options : List (String × RuleOption)} :
    c.options.Perm options → Immaterial (c, d) ({ c with options }, d)
  | added {c : Config} {d : Descriptor} {before after : List (String × RuleOption)} {k : String}
      {o : RuleOption} :
    c.options = before ++ after → ¬ Concerns d k →
    Immaterial (c, d) ({ c with options := before ++ (k, o) :: after }, d)
  | changed {c : Config} {d : Descriptor} {before after : List (String × RuleOption)} {k : String}
      {o o' : RuleOption} :
    c.options = before ++ (k, o) :: after → ¬ Concerns d k →
    Immaterial (c, d) ({ c with options := before ++ (k, o') :: after }, d)
  | removed {c : Config} {d : Descriptor} {before after : List (String × RuleOption)} {k : String}
      {o : RuleOption} :
    c.options = before ++ (k, o) :: after → ¬ Concerns d k →
    Immaterial (c, d) ({ c with options := before ++ after }, d)

def foldedKeys (d : Descriptor) : List String :=
  d.keys.map Text.asciiLower

def foldedEntry (e : String × RuleOption) : String × RuleOption :=
  (Text.asciiLower e.1, e.2)

/-- The entries under names and tags of a rule, with their keys in lower case. -/
def concerning (d : Descriptor) (options : List (String × RuleOption)) : List (String × RuleOption) :=
  (options.map foldedEntry).filter fun e => e.1 ∈ foldedKeys d

section Entries
variable {c : Config} {d : Descriptor} {options rest : List (String × RuleOption)} {k n : String} {o : RuleOption}

theorem mem_foldedKeys_iff : Text.asciiLower k ∈ foldedKeys d ↔ Concerns d k := by
  simp only [foldedKeys, List.mem_map, Concerns, eq_comm (b := Text.asciiLower k), Text.asciiLower_eq_iff]

theorem concerning_append (d : Descriptor) (options rest : List (String × RuleOption)) :
    concerning d (options ++ rest) = concerning d options ++ concerning d rest := by
  rw [concerning, List.map_append, List.filter_append]
  rfl

theorem concerning_cons_of_not_concerns (hk : ¬ Concerns d k) (o : RuleOption)
    (rest : List (String × RuleOption)) : concerning d ((k, o) :: rest) = concerning d rest := by
  rw [concerning, List.map_cons, List.filter_cons_of_neg]
  · rfl
  · rw [decide_eq_true_eq]
    exact mt mem_foldedKeys_iff.mp hk

theorem mem_concerning_iff (hn : n ∈ d.keys) :
    (Text.asciiLower n, o) ∈ concerning d options ↔ ∃ k, (k, o) ∈ options ∧ Text.eqIgnoreCase k n = true := by
  have hkey : Text.asciiLower n ∈ foldedKeys d := List.mem_map_of_mem hn
  rw [concerning, List.mem_filter, List.mem_map]
  constructor
  · rintro ⟨⟨⟨k, o'⟩, hmem, heq⟩, -⟩
    obtain ⟨hk, rfl⟩ := Prod.mk.inj heq
    exact ⟨k, hmem, Text.asciiLower_eq_iff.mp hk⟩
  · rintro ⟨k, hmem, hk⟩
    refine ⟨⟨(k, o), hmem, ?_⟩, decide_eq_true hkey⟩
    rw [foldedEntry, Text.asciiLower_eq_iff.mpr hk]

theorem nodup_concerning (h : DistinctNames (options.map Prod.fst)) (d : Descriptor) :
    ((concerning d options).map Prod.fst).Nodup := by
  have hfolded : ((options.map foldedEntry).map Prod.fst).Nodup := by
    rw [List.map_map, List.nodup_iff_pairwise_ne, List.pairwise_map]
    apply (List.pairwise_map.mp h).imp
    intro e f hne heq
    rw [Text.asciiLower_eq_iff.mp heq] at hne
    cases hne
  exact hfolded.sublist (List.filter_sublist.map Prod.fst)

/-- Where one entry at most is under a key, that is the one that is found, by an exact match or by a search. -/
theorem option?_eq_lookup (hdistinct : ((concerning d c.options).map Prod.fst).Nodup) (hn : n ∈ d.keys) :
    c.option? n = (concerning d c.options).lookup (Text.asciiLower n) := by
  apply Option.ext
  intro o
  rw [lookup_eq_some_iff_mem hdistinct]
  constructor
  · intro h
    exact (mem_concerning_iff hn).mpr (mem_of_option? h)
  · intro h
    obtain ⟨k, hmem, hk⟩ := (mem_concerning_iff hn).mp h
    obtain ⟨o', ho'⟩ := exists_option? hmem hk
    have h' := (mem_concerning_iff hn).mpr (mem_of_option? ho')
    obtain ⟨-, rfl⟩ := Prod.mk.inj (List.inj_on_of_nodup_map hdistinct h' h rfl)
    exact ho'

theorem filterMap_option?_eq (hdistinct : ((concerning d c.options).map Prod.fst).Nodup) :
    d.keys.filterMap c.option? = (foldedKeys d).filterMap fun k => (concerning d c.options).lookup k := by
  rw [foldedKeys, List.filterMap_map]
  apply List.filterMap_congr
  intro n hn
  exact option?_eq_lookup hdistinct hn

end Entries

/-- What two configurations say of two rules is the same, but for the case of keys and the order of entries. -/
structure Agree (c : Config) (d : Descriptor) (c' : Config) (d' : Descriptor) : Prop where
  default : c.enabledByDefault = c'.enabledByDefault
  keys : foldedKeys d = foldedKeys d'
  entries : (concerning d c.options).Perm (concerning d' c'.options)

section Agreement
variable {c c' : Config} {d d' : Descriptor}

theorem Agree.of_eq {options : List (String × RuleOption)} (h : concerning d c.options = concerning d options) :
    Agree c d { c with options } d :=
  ⟨rfl, rfl, .of_eq h⟩

theorem Agree.of_keys (h : foldedKeys d = foldedKeys d') : Agree c d c d' := by
  refine ⟨rfl, h, .of_eq ?_⟩
  rw [concerning, concerning, h]

theorem Agree.trans {c'' : Config} {d'' : Descriptor} (h : Agree c d c' d') (h' : Agree c' d' c'' d'') :
    Agree c d c'' d'' :=
  ⟨h.default.trans h'.default, h.keys.trans h'.keys, h.entries.trans h'.entries⟩

theorem Agree.resolve_eq (h : Agree c d c' d') (hdistinct : ((concerning d c.options).map Prod.fst).Nodup) :
    c.resolve d = c'.resolve d' := by
  have hdistinct' : ((concerning d' c'.options).map Prod.fst).Nodup :=
    (h.entries.map Prod.fst).nodup_iff.mp hdistinct
  have hentries : d.keys.filterMap c.option? = d'.keys.filterMap c'.option? := by
    rw [filterMap_option?_eq hdistinct, filterMap_option?_eq hdistinct', h.keys]
    apply List.filterMap_congr
    intro k _
    exact lookup_eq_of_perm h.entries hdistinct k
  rw [resolve, resolve, hentries, h.default]

theorem Immaterial.agree (h : Immaterial (c, d) (c', d')) : Agree c d c' d' := by
  cases h with
  | @key _ _ before after k k' o heq hcase =>
    apply Agree.of_eq
    rw [heq, concerning, concerning, List.map_append, List.map_append, List.map_cons, List.map_cons,
      foldedEntry, foldedEntry, Text.asciiLower_eq_iff.mpr hcase]
  | name heq hcase =>
    apply Agree.of_keys
    simp [foldedKeys, Descriptor.keys, heq, Text.asciiLower_eq_iff.mpr hcase]
  | tag heq hcase =>
    apply Agree.of_keys
    simp [foldedKeys, Descriptor.keys, heq, Text.asciiLower_eq_iff.mpr hcase]
  | order hperm => exact ⟨rfl, rfl, (hperm.map foldedEntry).filter _⟩
  | added heq hk =>
    apply Agree.of_eq
    rw [heq, concerning_append, concerning_append, concerning_cons_of_not_concerns hk]
  | changed heq hk =>
    apply Agree.of_eq
    rw [heq, concerning_append, concerning_append, concerning_cons_of_not_concerns hk,
      concerning_cons_of_not_concerns hk]
  | removed heq hk =>
    apply Agree.of_eq
    rw [heq, concerning_append, concerning_append, concerning_cons_of_not_concerns hk]

theorem agree_of_steps {p q : Config × Descriptor} (h : Relation.ReflTransGen Immaterial p q) :
    Agree p.1 p.2 q.1 q.2 := by
  induction h with
  | refl => exact .of_keys rfl
  | tail _ hstep ih => exact ih.trans hstep.agree

/-- When no two keys of a configuration are equal but for their case, no sequence of the following changes
affects the settings of a rule: letters of a key, a name or a tag change their case; the entries are put in
another order; an entry under no name or tag of the rule is added, changed or removed. -/
theorem resolve_of_immaterial (hdistinct : DistinctNames (c.options.map Prod.fst))
    (h : Relation.ReflTransGen Immaterial (c, d) (c', d')) : c'.resolve d' = c.resolve d :=
  ((agree_of_steps h).resolve_eq (nodup_concerning hdistinct d)).symm

end Agreement

/-- Entries change places, a key and the rule's name and tag change their case, and an entry that differs from
the one of another rule in case only is added. -/
theorem resolve_of_respelled :
    let d : Descriptor := ⟨["MD001"], "Headings", ["style"], none, .markdown, false⟩
    let d' : Descriptor := ⟨["md001"], "Headings", ["Style"], none, .markdown, false⟩
    let c : Config :=
      { standard with options := [("Style", .enabled false), ("MD001", .severity "warning"), ("x", .enabled true)] }
    let c' : Config :=
      { standard with options :=
        [("X", .enabled false), ("Md001", .severity "warning"), ("Style", .enabled false), ("x", .enabled true)] }
    DistinctNames (c.options.map Prod.fst) ∧ Relation.ReflTransGen Immaterial (c, d) (c', d') ∧
      c'.resolve d' = c.resolve d := by
  intro d d' c c'
  have hdistinct : DistinctNames (c.options.map Prod.fst) := by decide +kernel
  have hx : ¬ Concerns d' "X" := by
    simp only [Concerns, Descriptor.keys, d', not_exists, not_and]
    decide +kernel
  have hsteps : Relation.ReflTransGen Immaterial (c, d) (c', d') := by
    apply Relation.ReflTransGen.head (.order (.swap _ _ _))
    apply Relation.ReflTransGen.head (@Immaterial.key _ _ [] _ _ "Md001" _ rfl (by decide +kernel))
    apply Relation.ReflTransGen.head (@Immaterial.name _ _ [] _ _ "md001" rfl (by decide +kernel))
    apply Relation.ReflTransGen.head (@Immaterial.tag _ _ [] _ _ "Style" rfl (by decide +kernel))
    exact .single (@Immaterial.added _ d' [] _ _ _ rfl hx)
  exact ⟨hdistinct, hsteps, resolve_of_immaterial hdistinct hsteps⟩

end Config

end DocLint
