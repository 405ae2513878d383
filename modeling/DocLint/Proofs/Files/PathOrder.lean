import DocLint.Proofs.Files.Path
import DocLint.Proofs.Text.ByteOrder
import Mathlib.Data.Prod.Lex

/-!
# The order of paths

Paths stand in the lexicographic order of their components, and a component by its kind and its bytes. Sorting and
dropping each path that says the same as the one before it leaves a list that is strictly increasing, and such a list
is determined by its members. Taking away a dot in front takes away the component that it is.
-/

namespace DocLint.Path

set_option autoImplicit false

/-- What a component is compared by: its kind, and among names the bytes. -/
def Component.key : Component → Nat ×ₗ List Nat
  | .root => toLex (0, [])
  | .current => toLex (1, [])
  | .parent => toLex (2, [])
  | .name s => toLex (3, Text.bytes s)

def key (path : String) : List (Nat ×ₗ List Nat) :=
  (components path).map Component.key

/-- A path stands before another one and says something else. -/
def Before (a b : String) : Prop :=
  le a b = true ∧ same a b = false

section Order
variable {a b : String}

theorem Component.key_injective : Function.Injective Component.key := by
  intro c d h
  cases c <;> cases d <;> simp [Component.key] at h ⊢
  exact Text.bytes_injective h

theorem Component.lt_iff (c d : Component) : c.lt d = true ↔ c.key < d.key := by
  cases c <;> cases d <;> simp [Component.lt, Component.key, Prod.Lex.toLex_lt_toLex, Text.bytesLt_iff]

theorem leComponents_iff (cs ds : List Component) :
    leComponents cs ds = true ↔ cs.map Component.key ≤ ds.map Component.key := by
  induction cs generalizing ds with
  | nil =>
    rw [leComponents, List.map_nil]
    exact iff_of_true rfl (not_lt.mp (List.not_lt_nil _))
  | cons c cs ih =>
    cases ds with
    | nil => simp [leComponents]
    | cons d ds =>
      have heq : c = d ↔ c.key = d.key := Component.key_injective.eq_iff.symm
      rw [leComponents, Bool.or_eq_true, Bool.and_eq_true, beq_iff_eq, ih, Component.lt_iff, heq,
        List.map_cons, List.map_cons, le_iff_lt_or_eq, le_iff_lt_or_eq, List.cons_lt_cons_iff, List.cons.injEq,
        and_or_left, or_assoc]

theorem le_iff : le a b = true ↔ key a ≤ key b :=
  leComponents_iff (components a) (components b)

theorem key_eq_iff : key a = key b ↔ components a = components b :=
  (List.map_injective_iff.mpr Component.key_injective).eq_iff

theorem same_iff : same a b = true ↔ key a = key b := by
  rw [same, beq_iff_eq, key_eq_iff]

theorem before_iff : Before a b ↔ key a < key b := by
  rw [Before, le_iff, ← Bool.not_eq_true, same_iff, lt_iff_le_and_ne]

end Order

section Dedup
variable {paths others : List String}

/-- What is left after repeated paths are dropped was there before, and nothing is lost up to spelling. -/
theorem mem_of_mem_dedup {p : String} {paths : List String} (h : p ∈ dedup paths) : p ∈ paths := by
  induction paths with
  | nil => exact h
  | cons q rest ih =>
    rw [dedup] at h
    split at h
    · exact List.mem_cons.mpr (.inl (List.mem_singleton.mp h))
    · next r kept hkept =>
      rw [hkept] at ih
      split at h
      · rcases List.mem_cons.mp h with rfl | h
        · exact List.mem_cons_self
        · exact List.mem_cons_of_mem q (ih (List.mem_cons_of_mem r h))
      · rcases List.mem_cons.mp h with rfl | h
        · exact List.mem_cons_self
        · exact List.mem_cons_of_mem q (ih h)

theorem exists_mem_dedup {p : String} {paths : List String} (h : p ∈ paths) :
    ∃ q ∈ dedup paths, components q = components p := by
  induction paths with
  | nil => exact absurd h List.not_mem_nil
  | cons r rest ih =>
    rw [dedup]
    split
    · next hnone =>
      rcases List.mem_cons.mp h with rfl | h
      · exact ⟨p, List.mem_cons_self, rfl⟩
      · obtain ⟨q, hq, -⟩ := ih h
        exact absurd (hnone ▸ hq) List.not_mem_nil
    · next s kept hkept =>
      rw [hkept] at ih
      by_cases hsame : same r s = true
      · have hcomponents : components r = components s := eq_of_beq hsame
        rw [if_pos hsame]
        rcases List.mem_cons.mp h with rfl | h
        · exact ⟨p, List.mem_cons_self, rfl⟩
        · obtain ⟨q, hq, heq⟩ := ih h
          rcases List.mem_cons.mp hq with rfl | hq
          · exact ⟨r, List.mem_cons_self, hcomponents.trans heq⟩
          · exact ⟨q, List.mem_cons_of_mem r hq, heq⟩
      · rw [if_neg hsame]
        rcases List.mem_cons.mp h with rfl | h
        · exact ⟨p, List.mem_cons_self, rfl⟩
        · obtain ⟨q, hq, heq⟩ := ih h
          exact ⟨q, List.mem_cons_of_mem r hq, heq⟩

theorem pairwise_mergeSort_le (paths : List String) :
    (paths.mergeSort le).Pairwise fun a b => le a b = true := by
  refine List.pairwise_mergeSort ?_ ?_ paths
  · intro a b c hab hbc
    exact le_iff.mpr ((le_iff.mp hab).trans (le_iff.mp hbc))
  · intro a b
    rw [Bool.or_eq_true, le_iff, le_iff]
    exact le_total (key a) (key b)

/-- Among sorted paths, equal ones are neighbours. -/
theorem pairwise_dedup (h : paths.Pairwise fun a b => le a b = true) : (dedup paths).Pairwise Before := by
  induction paths with
  | nil => exact .nil
  | cons p rest ih =>
    obtain ⟨hp, hrest⟩ := List.pairwise_cons.mp h
    have hkept := ih hrest
    have hmem : ∀ q ∈ dedup rest, le p q = true := fun q hq => hp q (mem_of_mem_dedup hq)
    rw [dedup]
    split
    · exact List.pairwise_singleton Before p
    · next q kept heq =>
      -- what says the same as the first path stands at the head of the kept ones, if it is there at all
      rw [heq] at hkept hmem
      obtain ⟨hq, htail⟩ := List.pairwise_cons.mp hkept
      by_cases hsame : same p q = true
      · rw [if_pos hsame]
        refine List.pairwise_cons.mpr ⟨fun r hr => ?_, htail⟩
        rw [before_iff, same_iff.mp hsame]
        exact before_iff.mp (hq r hr)
      · have hpq : Before p q := ⟨hmem q List.mem_cons_self, Bool.not_eq_true _ ▸ hsame⟩
        rw [if_neg hsame]
        refine List.pairwise_cons.mpr ⟨fun r hr => ?_, hkept⟩
        rcases List.mem_cons.mp hr with rfl | hr
        · exact hpq
        · exact before_iff.mpr ((before_iff.mp hpq).trans (before_iff.mp (hq r hr)))

/-- A strictly increasing list is determined by what its members say. -/
theorem components_eq_of_pairwise (h : paths.Pairwise Before) (h' : others.Pairwise Before)
    (hmem : ∀ cs, cs ∈ paths.map components ↔ cs ∈ others.map components) :
    paths.map components = others.map components := by
  have hkeys {xs : List String} (hxs : xs.Pairwise Before) :
      ((xs.map components).map (List.map Component.key)).Pairwise (· < ·) := by
    rw [List.map_map]
    exact List.pairwise_map.mpr (hxs.imp before_iff.mp)
  have hinjective : Function.Injective (List.map Component.key) :=
    List.map_injective_iff.mpr Component.key_injective
  apply List.map_injective_iff.mpr hinjective
  apply List.Perm.eq_of_pairwise (fun _ _ _ _ hab hba => absurd hab hba.asymm) (hkeys h) (hkeys h')
  apply (List.perm_ext_iff_of_nodup ((hkeys h).imp ne_of_lt) ((hkeys h').imp ne_of_lt)).mpr
  intro ks
  rw [List.mem_map, List.mem_map]
  exact exists_congr fun cs => and_congr_left fun _ => hmem cs

end Dedup

section Dot
variable {path : String}

/-- Components without a single dot in front of others. -/
def plain : List Component → List Component
  | .current :: c :: rest => c :: rest
  | cs => cs

theorem components_of_dot (h : (parts path).head = .dot) :
    components path = .current :: (solid path).map componentOf := by
  simp [components, h, (solid_eq_body path).1]

theorem components_of_relative (h : (parts path).head = .relative) :
    components path = (solid path).map componentOf := by
  simp [components, h, (solid_eq_body path).1]

theorem head?_components_ne (h : (parts path).head ≠ .dot) : (components path).head? ≠ some .current := by
  cases hhead : (parts path).head with
  | absolute => simp [components, hhead]
  | dot => exact absurd hhead h
  | relative =>
    rw [components_of_relative hhead]
    exact fun hfirst => (mem_map_componentOf (List.mem_of_head? hfirst)).2 rfl

theorem plain_of_head?_ne {cs : List Component} (h : cs.head? ≠ some .current) : plain cs = cs := by
  unfold plain
  split
  · exact absurd rfl h
  · rfl

/-- Pieces that begin with one that says something are neither given from the root nor after a dot. -/
theorem components_joinPieces {s : String} {rest : List String} (hs : isIdle s = false)
    (hslash : ∀ t ∈ s :: rest, '/' ∉ t.toList) :
    components (joinPieces (s :: rest)) = (solid (joinPieces (s :: rest))).map componentOf := by
  have hrelative := isAbsolute_joinPieces rest hs (hslash s List.mem_cons_self)
  have hpieces := pieces_joinPieces (List.cons_ne_nil s rest) hslash
  cases hhead : (parts (joinPieces (s :: rest))).head with
  | absolute =>
    have habsolute := (solid_eq_body _).2.mpr hhead
    rw [hrelative] at habsolute
    cases habsolute
  | dot =>
    obtain ⟨rfl, -⟩ := List.cons.inj (hpieces.symm.trans (pieces_of_dot hhead).1)
    cases hs
  | relative => exact components_of_relative hhead

theorem components_withoutDot (path : String) : components (withoutDot path) = plain (components path) := by
  cases hhead : (parts path).head with
  | dot =>
    have hsolid : (trimEnd ((parts path).body.dropWhile isIdle)).filter (fun piece => !isIdle piece) = solid path := by
      rw [filter_trimEnd, filter_dropWhile_idle, (solid_eq_body path).1]
    rw [components_of_dot hhead]
    cases hbody : trimEnd ((parts path).body.dropWhile isIdle) with
    | nil =>
      rw [hbody] at hsolid
      have hsame : withoutDot path = path := by simp [withoutDot, hhead, hbody]
      rw [hsame, components_of_dot hhead, ← hsolid]
      rfl
    | cons s rest =>
      obtain ⟨hs, hslash⟩ := pieces_after_dot hhead hbody
      have hjoined : withoutDot path = joinPieces (s :: rest) := by simp [withoutDot, hhead, hbody]
      rw [hbody] at hsolid
      have hsays : solid path = s :: rest.filter fun piece => !isIdle piece := by
        rw [← hsolid, List.filter_cons_of_pos]
        rw [hs]
        rfl
      rw [hjoined, components_joinPieces hs hslash, ← hjoined, (solid_withoutDot path).1, hsays]
      rfl
  | absolute | relative =>
    have hsame : withoutDot path = path := by simp [withoutDot, hhead]
    rw [hsame, plain_of_head?_ne (head?_components_ne (by simp [hhead]))]

/-- A path from which a dot in front is taken begins with one only if it is nothing else. -/
theorem components_withoutDot_of_head? (h : (components (withoutDot path)).head? = some .current) :
    components (withoutDot path) = [.current] := by
  rw [components_withoutDot] at h ⊢
  by_cases hdot : (parts path).head = .dot
  · rw [components_of_dot hdot] at h ⊢
    cases hpieces : (solid path).map componentOf with
    | nil => rfl
    | cons c rest =>
      rw [hpieces] at h
      have hc : c ∈ (solid path).map componentOf := hpieces ▸ List.mem_cons_self
      exact absurd (Option.some.inj h) (mem_map_componentOf hc).2
  · rw [plain_of_head?_ne (head?_components_ne hdot)] at h
    exact absurd h (head?_components_ne hdot)

end Dot

end DocLint.Path
