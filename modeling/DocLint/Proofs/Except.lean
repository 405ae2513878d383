import Mathlib.Data.List.Forall2

/-!
# Computations that may fail

A computation that consists of two parts comes to a result if both do. One over a list comes to a list of results,
one for each element.
-/

namespace DocLint

set_option autoImplicit false

section Except
variable {ε ε' α β : Type}

theorem bind_eq_ok_iff {x : Except ε α} {f : α → Except ε β} {b : β} :
    x >>= f = .ok b ↔ ∃ a, x = .ok a ∧ f a = .ok b := by
  cases x <;> simp [bind, Except.bind]

theorem bind_eq_error_iff {x : Except ε α} {f : α → Except ε β} {e : ε} :
    x >>= f = .error e ↔ x = .error e ∨ ∃ a, x = .ok a ∧ f a = .error e := by
  cases x <;> simp [bind, Except.bind]

theorem bind_pure_eq_error_iff {x : Except ε α} {f : α → β} {e : ε} :
    (x >>= fun a => pure (f a)) = .error e ↔ x = .error e := by
  cases x <;> simp [bind, Except.bind, pure, Except.pure]

theorem mapError_eq_ok_iff {x : Except ε α} {f : ε → ε'} {a : α} : x.mapError f = .ok a ↔ x = .ok a := by
  cases x <;> simp [Except.mapError]

theorem mapError_eq_error_iff {x : Except ε α} {f : ε → ε'} {e' : ε'} :
    x.mapError f = .error e' ↔ ∃ e, x = .error e ∧ f e = e' := by
  cases x <;> simp [Except.mapError]

end Except

section Forall₂
variable {ε α β : Type} {R : α → β → Prop} {as : List α} {bs : List β}

theorem mapM_eq_ok_iff {f : α → Except ε β} :
    as.mapM f = .ok bs ↔ List.Forall₂ (fun a b => f a = .ok b) as bs := by
  induction as generalizing bs with
  | nil => simp [pure, Except.pure, eq_comm]
  | cons a rest ih =>
    rw [List.mapM_cons, List.forall₂_cons_left_iff]
    simp only [bind_eq_ok_iff, pure, Except.pure, Except.ok.injEq, ih]
    constructor
    · rintro ⟨b, hb, more, hmore, rfl⟩
      exact ⟨b, more, hb, hmore, rfl⟩
    · rintro ⟨b, more, hb, hmore, rfl⟩
      exact ⟨b, hb, more, hmore, rfl⟩

/-- There are no results if one of the computations fails; the first that does tells why. -/
theorem mapM_eq_error_iff {f : α → Except ε β} {e : ε} :
    as.mapM f = .error e ↔
      ∃ before a after, as = before ++ a :: after ∧ (∀ b ∈ before, ∃ r, f b = .ok r) ∧ f a = .error e := by
  induction as with
  | nil => simp [pure, Except.pure]
  | cons a rest ih =>
    rw [List.mapM_cons, bind_eq_error_iff]
    simp only [bind_pure_eq_error_iff, ih]
    constructor
    · rintro (ha | ⟨r, ha, before, b, after, rfl, hbefore, hb⟩)
      · exact ⟨[], a, rest, rfl, List.forall_mem_nil _, ha⟩
      · exact ⟨a :: before, b, after, rfl, List.forall_mem_cons.mpr ⟨⟨r, ha⟩, hbefore⟩, hb⟩
    · rintro ⟨before, b, after, hsplit, hbefore, hb⟩
      cases before with
      | nil =>
        obtain ⟨rfl, rfl⟩ := List.cons.inj hsplit
        exact .inl hb
      | cons c before =>
        obtain ⟨rfl, rfl⟩ := List.cons.inj hsplit
        obtain ⟨⟨r, ha⟩, hrest⟩ := List.forall_mem_cons.mp hbefore
        exact .inr ⟨r, ha, before, b, after, rfl, hrest, hb⟩

theorem exists_forall₂_iff : (∃ bs, List.Forall₂ R as bs) ↔ ∀ a ∈ as, ∃ b, R a b := by
  induction as with
  | nil => simp
  | cons a rest ih =>
    rw [List.forall_mem_cons, ← ih]
    constructor
    · rintro ⟨_, h⟩
      cases h with
      | cons hab hrest => exact ⟨⟨_, hab⟩, ⟨_, hrest⟩⟩
    · rintro ⟨⟨b, hab⟩, ⟨bs, hrest⟩⟩
      exact ⟨b :: bs, .cons hab hrest⟩

theorem exists_of_mem_forall₂ (h : List.Forall₂ R as bs) {b : β} (hb : b ∈ bs) : ∃ a ∈ as, R a b := by
  induction h with
  | nil => simp at hb
  | cons hab _ ih =>
    rcases List.mem_cons.mp hb with rfl | hb
    · exact ⟨_, List.mem_cons_self, hab⟩
    · obtain ⟨a, ha, hR⟩ := ih hb
      exact ⟨a, List.mem_cons_of_mem _ ha, hR⟩

theorem forall₂_set (h : List.Forall₂ R as bs) (k : Nat) {b : β} (hb : ∀ a, as[k]? = some a → R a b) :
    List.Forall₂ R as (bs.set k b) := by
  induction h generalizing k with
  | nil => exact .nil
  | cons hfirst hrest ih =>
    cases k with
    | zero => exact .cons (hb _ rfl) hrest
    | succ k => exact .cons hfirst (ih k hb)

/-- Values that are kept on one side are kept on the other. -/
theorem forall₂_filter {S : α → β → Prop} {p : α → Bool} {q : β → Bool} (h : List.Forall₂ R as bs)
    (hsame : ∀ a b, R a b → p a = q b) (hkept : ∀ a ∈ as.filter p, ∀ b, R a b → S a b) :
    List.Forall₂ S (as.filter p) (bs.filter q) := by
  induction h with
  | nil => exact .nil
  | @cons a b as bs hab _ ih =>
    by_cases ha : p a = true
    · have hb : q b = true := by rw [← hsame a b hab, ha]
      rw [List.filter_cons_of_pos ha] at hkept
      rw [List.filter_cons_of_pos ha, List.filter_cons_of_pos hb]
      exact .cons (hkept a List.mem_cons_self b hab) (ih fun c hc => hkept c (List.mem_cons_of_mem _ hc))
    · have hb : ¬ q b = true := by rwa [← hsame a b hab]
      rw [List.filter_cons_of_neg ha] at hkept
      rw [List.filter_cons_of_neg ha, List.filter_cons_of_neg hb]
      exact ih hkept

end Forall₂

end DocLint
