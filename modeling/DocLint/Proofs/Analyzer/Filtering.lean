import DocLint.Analyzer.PrefixFilter
import DocLint.Proofs.Json.Sorted

/-!
# Filtered configurations of an analyzer

The configuration of an analyzer is taken apart into its rules and all else, and is put together again for the
analyzer. On this way nothing is lost but the rules that a filter drops.
-/

namespace DocLint

set_option autoImplicit false

namespace Decode

theorem json_eq_ok_iff {r : Reading} {v : Json} : json r = .ok v ↔ r.toJson = .ok v :=
  mapError_eq_ok_iff

theorem membersToJson_of_members {readings : List (String × Reading)} {found : List (String × Json)}
    (h : members json readings = .ok found) : Reading.membersToJson readings = .ok found := by
  induction readings generalizing found with
  | nil =>
    cases h
    rfl
  | cons m rest ih =>
    obtain ⟨k, r⟩ := m
    simp only [members, bind_eq_ok_iff] at h
    obtain ⟨v, hv, more, hmore, hfound⟩ := h
    cases hfound
    rw [Reading.membersToJson, json_eq_ok_iff.mp hv, ih hmore]
    rfl

theorem ending_eq_ok {fault : Option JsonFault} (h : ending fault = .ok ()) : fault = none := by
  cases fault with
  | none => rfl
  | some f => cases h

/-- What is decoded as a map of values is the object of them. -/
theorem toJson_of_map {r : Reading} {found : List (String × Json)} (h : map json r = .ok found) :
    r.toJson = .ok (Json.ofMembers found) := by
  cases r with
  | object readings fault =>
    simp only [map, bind_eq_ok_iff] at h
    obtain ⟨ms, hms, ⟨⟩, hfault, hfound⟩ := h
    cases hfound
    cases ending_eq_ok hfault
    rw [Reading.toJson, membersToJson_of_members hms]
    rfl
  | null | bool | number | string | array | fault => cases h

end Decode

namespace AnalyzerConfig

theorem keysSorted_sortMembers (members : List (String × Json)) : Json.KeysSorted (sortMembers members) :=
  Json.KeysSorted.foldl_insertMember members .nil

theorem lookup_sortMembers (members : List (String × Json)) (key : String) :
    (sortMembers members).lookup key = members.reverse.lookup key := by
  rw [sortMembers, Json.lookup_foldl_insertMember, List.lookup_nil, Option.or_none]

/-- Members are the rules, which are given once at most, or are kept as they are. -/
theorem exists_members {readings : List (String × Reading)} {rules : Option (List (String × Json))}
    {rest : List (String × Json)} {config : AnalyzerConfig}
    (h : decodeMembers rules rest readings = .ok config) :
    ∃ members, Reading.membersToJson readings = .ok members ∧
      config.rest = sortMembers (rest ++ members.filter fun m => m.1 != "rules") ∧
      (members.filter (fun m => m.1 == "rules") = [] ∧ config.rules = sortMembers (rules.getD []) ∨
        rules = none ∧ ∃ found, members.filter (fun m => m.1 == "rules") = [("rules", Json.ofMembers found)] ∧
          config.rules = sortMembers found) := by
  induction readings generalizing rules rest with
  | nil =>
    cases h
    refine ⟨[], rfl, ?_, .inl ⟨rfl, rfl⟩⟩
    rw [List.filter_nil, List.append_nil]
  | cons m more ih =>
    obtain ⟨k, r⟩ := m
    rw [decodeMembers] at h
    split at h
    · next hk =>
      cases eq_of_beq hk
      cases rules with
      | some rules => cases h
      | none =>
        obtain ⟨found, hfound, h⟩ := bind_eq_ok_iff.mp h
        obtain ⟨members, hmembers, hrest, hrules⟩ := ih h
        -- further rules would have been refused
        obtain ⟨hnone, hconfig⟩ := hrules.resolve_right fun hmore => Option.some_ne_none _ hmore.1
        refine ⟨("rules", Json.ofMembers found) :: members, ?_, hrest, .inr ⟨rfl, found, ?_, hconfig⟩⟩
        · rw [Reading.membersToJson, Decode.toJson_of_map hfound, hmembers]
          rfl
        · rw [List.filter_cons_of_pos rfl, hnone]
    · next hk =>
      obtain ⟨v, hv, h⟩ := bind_eq_ok_iff.mp h
      obtain ⟨members, hmembers, hrest, hrules⟩ := ih h
      have hkept : (k != "rules") = true := bne_iff_ne.mpr fun heq => hk (beq_iff_eq.mpr heq)
      have hothers : ((k, v) :: members).filter (fun m => m.1 != "rules") =
          (k, v) :: members.filter fun m => m.1 != "rules" := List.filter_cons_of_pos hkept
      have hsame : ((k, v) :: members).filter (fun m => m.1 == "rules") =
          members.filter fun m => m.1 == "rules" := List.filter_cons_of_neg hk
      refine ⟨(k, v) :: members, ?_, ?_, ?_⟩
      · rw [Reading.membersToJson, Decode.json_eq_ok_iff.mp hv, hmembers]
        rfl
      · rw [hrest, hothers, List.append_assoc]
        rfl
      · rwa [hsame]

/-- A configuration has the rules and all other settings of the value that it is decoded from. -/
structure Holds (config : AnalyzerConfig) (v : Json) : Prop where
  isObject : ∃ members, v = .object members
  rules : v.member? "rules" = some (.object config.rules) ∨ v.member? "rules" = none ∧ config.rules = []
  rest : ∀ key, key ≠ "rules" → config.rest.lookup key = v.member? key
  rulesSorted : Json.KeysSorted config.rules
  restSorted : Json.KeysSorted config.rest

theorem holds_of_decode {r : Reading} {v : Json} {config : AnalyzerConfig} (hread : r.toJson = .ok v)
    (hdecode : decode r = .ok config) : config.Holds v := by
  cases r with
  | object readings fault =>
    simp only [decode, bind_eq_ok_iff] at hdecode
    obtain ⟨config', hconfig, ⟨⟩, hfault, hdecode⟩ := hdecode
    cases hdecode
    cases Decode.ending_eq_ok hfault
    obtain ⟨members, hmembers, hrest, hrules⟩ := exists_members hconfig
    rw [List.nil_append] at hrest
    rw [Reading.toJson, hmembers] at hread
    cases hread
    have hmember (key : String) : (Json.ofMembers members).member? key = members.reverse.lookup key :=
      lookup_sortMembers members key
    have hmemberRules : (Json.ofMembers members).member? "rules" =
        (members.filter fun m => m.1 == "rules").reverse.lookup "rules" := by
      rw [hmember, ← List.filter_reverse]
      exact (lookup_filter (fun _ => rfl) _).symm
    refine ⟨⟨_, rfl⟩, ?rules, ?rest, ?rulesSorted, ?restSorted⟩
    case rules =>
      rcases hrules with ⟨hnone, hconfig⟩ | ⟨-, found, hone, hconfig⟩
      · rw [hmemberRules, hnone]
        exact .inr ⟨rfl, hconfig⟩
      · rw [hmemberRules, hone, hconfig]
        exact .inl rfl
    case rest =>
      intro key hkey
      have hkept : (key != "rules") = true := bne_iff_ne.mpr hkey
      rw [hrest, lookup_sortMembers, hmember, ← List.filter_reverse]
      exact lookup_filter (fun _ => hkept) _
    case rulesSorted =>
      rcases hrules with ⟨-, hconfig⟩ | ⟨-, found, -, hconfig⟩
      · rw [hconfig]
        exact keysSorted_sortMembers _
      · rw [hconfig]
        exact keysSorted_sortMembers _
    case restSorted =>
      rw [hrest]
      exact keysSorted_sortMembers _
  | null | bool | number | string | array | fault => cases hdecode

end AnalyzerConfig

namespace PrefixFilter

/-- A name that is kept: it begins with nothing denied, or with something allowed. -/
def Keeps (f : PrefixFilter) (name : String) : Prop :=
  (∀ p ∈ f.deny, ¬ p.toList <+: name.toList) ∨ ∃ p ∈ f.allow, p.toList <+: name.toList

theorem allows_iff {f : PrefixFilter} {name : String} : f.allows name = true ↔ f.Keeps name := by
  have hany (ps : List String) : ps.any (Text.startsWith name) = true ↔ ∃ p ∈ ps, p.toList <+: name.toList := by
    simp only [List.any_eq_true, Text.startsWith, List.isPrefixOf_iff_prefix]
  rw [allows, Bool.or_eq_true, Bool.not_eq_true', ← Bool.not_eq_true, hany, hany, Keeps]
  push Not
  rfl

theorem Keeps.mono {f g : PrefixFilter} (hallow : f.allow ⊆ g.allow) (hdeny : g.deny ⊆ f.deny) {name : String}
    (h : f.Keeps name) : g.Keeps name := by
  rcases h with hdenied | ⟨p, hp, hprefix⟩
  · exact .inl fun p hp => hdenied p (hdeny hp)
  · exact .inr ⟨p, hallow hp, hprefix⟩

section Laws
variable (f g : PrefixFilter) (config : AnalyzerConfig)

theorem apply_apply_eq_filter :
    f.apply (g.apply config) =
      { config with rules := config.rules.filter fun m => f.allows m.1 && g.allows m.1 } :=
  congrArg (AnalyzerConfig.mk · config.rest) List.filter_filter

theorem apply_comm : f.apply (g.apply config) = g.apply (f.apply config) := by
  simp only [apply_apply_eq_filter, Bool.and_comm]

theorem apply_apply_self : f.apply (f.apply config) = f.apply config := by
  rw [apply_apply_eq_filter]
  simp only [Bool.and_self]
  rfl

variable {f g} in
/-- A filter that allows more and denies less keeps more. -/
theorem apply_rules_sublist (hallow : f.allow ⊆ g.allow) (hdeny : g.deny ⊆ f.deny) :
    (f.apply config).rules.Sublist (g.apply config).rules := by
  apply List.monotone_filter_right
  intro m hm
  exact allows_iff.mpr ((allows_iff.mp hm).mono hallow hdeny)

end Laws

/-- One object is another one of whose rules only some are kept. -/
structure KeepsRules (kept : String → Prop) (v v' : Json) : Prop where
  isObject : ∃ members, v = .object members
  sorted : ∃ members, v' = .object members ∧ Json.KeysSorted members
  rules : ∃ rules rules',
    (v.member? "rules" = some (.object rules) ∨ v.member? "rules" = none ∧ rules = []) ∧
    v'.member? "rules" = some (.object rules') ∧ Json.KeysSorted rules' ∧
    ∀ m, m ∈ rules' ↔ m ∈ rules ∧ kept m.1
  others : ∀ key, key ≠ "rules" → v'.member? key = v.member? key

theorem keepsRules_of_holds (f : PrefixFilter) {config : AnalyzerConfig} {v : Json} (h : config.Holds v) :
    KeepsRules f.Keeps v (f.apply config).toJson := by
  have hmember (key : String) : (f.apply config).toJson.member? key =
      if key = "rules" then some (.object (f.apply config).rules) else config.rest.lookup key :=
    Json.lookup_insertMember _ _ _ _
  refine ⟨h.isObject, ⟨_, rfl, h.restSorted.insertMember _ _⟩,
    ⟨config.rules, (f.apply config).rules, h.rules, ?_, ?_, ?_⟩, ?_⟩
  · rw [hmember, if_pos rfl]
  · exact List.Pairwise.filter _ h.rulesSorted
  · intro m
    rw [mem_apply_rules, allows_iff]
  · intro key hkey
    rw [hmember, if_neg hkey, h.rest key hkey]

/-- A configuration that was decoded is given back with fewer rules and else unchanged. What a filter drops is
dropped at once, filters can be applied in any order, and what they keep grows with what is allowed and
shrinks with what is denied. -/
theorem filtered_configuration (f : PrefixFilter) :
    (∀ r v config, Reading.toJson r = .ok v → AnalyzerConfig.decode r = .ok config →
      KeepsRules f.Keeps v (f.apply config).toJson) ∧
    (∀ config, f.apply (f.apply config) = f.apply config) ∧
    (∀ (g : PrefixFilter) config, f.apply (g.apply config) = g.apply (f.apply config)) ∧
    ∀ (g : PrefixFilter) config, f.allow ⊆ g.allow → g.deny ⊆ f.deny →
      (f.apply config).rules.Sublist (g.apply config).rules := by
  refine ⟨?encoded, f.apply_apply_self, f.apply_comm, ?grows⟩
  case encoded =>
    intro r v config hread hdecode
    exact f.keepsRules_of_holds (AnalyzerConfig.holds_of_decode hread hdecode)
  case grows =>
    intro g config hallow hdeny
    exact apply_rules_sublist config hallow hdeny

/-- A configuration with settings around its rules, one of which is allowed against what is denied. -/
def settingsOfTools : Json :=
  .object [
    ("env", .object [("node", .bool true)]),
    ("rules", .object [("n/global", .string "error"), ("n/shebang", .string "off"), ("semi", .string "error")]),
    ("settings", .object [("rules", .null)])]

theorem sorted_settingsOfTools : settingsOfTools.Sorted := by
  have henv : (Json.object [("node", .bool true)]).Sorted :=
    .object (by decide) (by simpa using Json.Sorted.bool true)
  have hsettings : (Json.object [("rules", .null)]).Sorted := .object (by decide) (by simpa using Json.Sorted.null)
  have hrules : (Json.object
      [("n/global", .string "error"), ("n/shebang", .string "off"), ("semi", .string "error")]).Sorted := by
    refine .object (by decide) ?_
    simp only [List.forall_mem_cons]
    exact ⟨.string _, .string _, .string _, List.forall_mem_nil _⟩
  refine .object (by decide) ?_
  simp only [List.forall_mem_cons]
  exact ⟨henv, hrules, hsettings, List.forall_mem_nil _⟩

theorem filtered_configuration_of_tools :
    Reading.toJson (Reading.ofJson settingsOfTools) = .ok settingsOfTools ∧
      ∃ config, AnalyzerConfig.decode (Reading.ofJson settingsOfTools) = .ok config ∧
        KeepsRules (PrefixFilter.mk ["n/s"] ["n/", "semi!"]).Keeps settingsOfTools
          ((PrefixFilter.mk ["n/s"] ["n/", "semi!"]).apply config).toJson ∧
        ((PrefixFilter.mk ["n/s"] ["n/", "semi!"]).apply config).rules.map Prod.fst = ["n/shebang", "semi"] ∧
        [] ⊆ ["n/s"] ∧ ["n/"] ⊆ ["n/"] ∧
        ((PrefixFilter.mk [] ["n/"]).apply config).rules.Sublist
          ((PrefixFilter.mk ["n/s"] ["n/"]).apply config).rules := by
  have hread := Reading.toJson_ofJson sorted_settingsOfTools
  refine ⟨hread, _, rfl, ?_, by decide, List.nil_subset _, List.Subset.refl _, ?_⟩
  · exact (filtered_configuration _).1 _ _ _ hread rfl
  · exact (filtered_configuration _).2.2.2 _ _ (List.nil_subset _) (List.Subset.refl _)

end PrefixFilter

end DocLint
