import Mathlib.Data.List.Nodup

/-!
# Look-ups in lists of pairs

The pair that is found under a key is the first one with that key.
-/

namespace DocLint

set_option autoImplicit false

section Lookup
variable {α : Type} {pairs : List (String × α)} {key : String}

theorem lookup_cons_eq_ite (key : String) (p : String × α) (rest : List (String × α)) :
    (p :: rest).lookup key = if key = p.1 then some p.2 else rest.lookup key := by
  rw [List.lookup_cons]
  split
  · next h => rw [if_pos (eq_of_beq h)]
  · next h => rw [if_neg (beq_eq_false_iff_ne.mp h)]

theorem lookup_eq_find? (key : String) (pairs : List (String × α)) :
    pairs.lookup key = (pairs.find? fun p => key == p.1).map Prod.snd := by
  induction pairs with
  | nil => rfl
  | cons p rest ih =>
    rw [List.lookup_cons, List.find?_cons, ih]
    cases key == p.1 <;> rfl

theorem lookup_eq_none_of_not_mem (h : key ∉ pairs.map Prod.fst) : pairs.lookup key = none := by
  rw [List.lookup_eq_none_iff]
  intro p hp
  exact bne_iff_ne.mpr fun heq => h (heq ▸ List.mem_map_of_mem hp)

theorem mem_of_lookup {a : α} (h : pairs.lookup key = some a) : (key, a) ∈ pairs := by
  obtain ⟨before, after, rfl, -⟩ := List.lookup_eq_some_iff.mp h
  exact List.mem_append_right before List.mem_cons_self

theorem isSome_lookup_iff : (pairs.lookup key).isSome = true ↔ key ∈ pairs.map Prod.fst := by
  constructor
  · intro hsome
    obtain ⟨a, ha⟩ := Option.isSome_iff_exists.mp hsome
    exact List.mem_map_of_mem (mem_of_lookup ha)
  · intro hmem
    by_contra hnone
    obtain ⟨p, hp, rfl⟩ := List.mem_map.mp hmem
    rw [Option.not_isSome_iff_eq_none, List.lookup_eq_none_iff] at hnone
    exact bne_iff_ne.mp (hnone p hp) rfl

theorem lookup_filter {kept : String × α → Bool} (hkey : ∀ a, kept (key, a) = true)
    (pairs : List (String × α)) : (pairs.filter kept).lookup key = pairs.lookup key := by
  induction pairs with
  | nil => rfl
  | cons p rest ih =>
    obtain ⟨k, a⟩ := p
    by_cases hk : kept (k, a) = true
    · rw [List.filter_cons_of_pos hk, List.lookup_cons, List.lookup_cons, ih]
    · have hne : (key == k) = false := beq_eq_false_iff_ne.mpr fun heq => hk (heq ▸ hkey a)
      rw [List.filter_cons_of_neg hk, List.lookup_cons, hne, ih]

theorem lookup_map {β : Type} (f : α → β) (pairs : List (String × α)) (key : String) :
    (pairs.map fun p => (p.1, f p.2)).lookup key = (pairs.lookup key).map f := by
  induction pairs with
  | nil => rfl
  | cons p rest ih =>
    rw [List.map_cons, List.lookup_cons, List.lookup_cons]
    cases key == p.1 with
    | true => rfl
    | false => exact ih

/-- Where every key occurs once, what is found is what is there. -/
theorem lookup_eq_some_iff_mem (h : (pairs.map Prod.fst).Nodup) {a : α} :
    pairs.lookup key = some a ↔ (key, a) ∈ pairs := by
  constructor
  · exact mem_of_lookup
  · intro hmem
    obtain ⟨b, hb⟩ : ∃ b, pairs.lookup key = some b := by
      rw [← Option.ne_none_iff_exists', Ne, List.lookup_eq_none_iff]
      intro hnone
      exact absurd rfl (bne_iff_ne.mp (hnone (key, a) hmem))
    obtain ⟨-, rfl⟩ := Prod.mk.inj (List.inj_on_of_nodup_map h (mem_of_lookup hb) hmem rfl)
    exact hb

theorem lookup_eq_of_perm {pairs' : List (String × α)} (hperm : pairs.Perm pairs')
    (h : (pairs.map Prod.fst).Nodup) (key : String) : pairs.lookup key = pairs'.lookup key := by
  have h' : (pairs'.map Prod.fst).Nodup := (hperm.map Prod.fst).nodup_iff.mp h
  apply Option.ext
  intro a
  rw [lookup_eq_some_iff_mem h, lookup_eq_some_iff_mem h', hperm.mem_iff]

end Lookup

end DocLint
