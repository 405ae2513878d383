import DocLint.Token.Walk

/-!
# Where tokens stand

The address of a token in a forest says which way leads to it: the place among the top-level tokens, then the
place among the children of that token, and so on. The order in which tokens are visited is the lexicographic
order of their addresses.
-/

namespace DocLint

set_option autoImplicit false

/-- The token at an address. -/
def tokenAt? (tokens : List Token) : List Nat → Option Token
  | [] => none
  | i :: rest => (tokens[i]?).bind fun t => if rest = [] then some t else tokenAt? t.children rest

/-- The tokens of a forest with their addresses, the first of its trees being number `i`. -/
def placesFrom (i : Nat) : List Token → List (List Nat × Token)
  | [] => []
  | ⟨type, line, endLine, span, content, info, children⟩ :: rest =>
    ([i], ⟨type, line, endLine, span, content, info, children⟩) ::
      ((placesFrom 0 children).map (fun p => (i :: p.1, p.2)) ++ placesFrom (i + 1) rest)

def places (tokens : List Token) : List (List Nat × Token) :=
  placesFrom 0 tokens

/-- Whether a list has the token of every address once, in the order of the addresses. -/
def InAddressOrder (tokens visited : List Token) : Prop :=
  ∃ places : List (List Nat × Token), places.map Prod.snd = visited ∧
    places.Pairwise (fun p q => p.1 < q.1) ∧ ∀ a t, (a, t) ∈ places ↔ tokenAt? tokens a = some t

section Places
variable {tokens : List Token} {a : List Nat} {t : Token} {i : Nat}

@[simp] theorem placesFrom_nil : placesFrom i [] = [] := by
  rw [placesFrom]

@[simp] theorem placesFrom_cons (t : Token) (rest : List Token) :
    placesFrom i (t :: rest) =
      ([i], t) :: ((placesFrom 0 t.children).map (fun p => (i :: p.1, p.2)) ++ placesFrom (i + 1) rest) := by
  cases t
  rw [placesFrom]

theorem tokenAt?_cons {s : Token} (h : tokens[i]? = some s) (rest : List Nat) :
    tokenAt? tokens (i :: rest) = if rest = [] then some s else tokenAt? s.children rest := by
  rw [tokenAt?, h, Option.bind_some]

theorem ne_nil_of_tokenAt? (h : tokenAt? tokens a = some t) : a ≠ [] := by
  rintro rfl
  cases h

theorem tokenAt?_zero (t : Token) (rest : List Token) (a : List Nat) :
    tokenAt? (t :: rest) (0 :: a) = if a = [] then some t else tokenAt? t.children a :=
  tokenAt?_cons rfl a

theorem tokenAt?_succ (t : Token) (rest : List Token) (i : Nat) (a : List Nat) :
    tokenAt? (t :: rest) ((i + 1) :: a) = tokenAt? rest (i :: a) := by
  simp [tokenAt?]

theorem map_snd_placesFrom (i : Nat) (tokens : List Token) :
    (placesFrom i tokens).map Prod.snd = preorder tokens := by
  fun_induction placesFrom i tokens with
  | case1 => simp
  | case2 i type line endLine span content info children rest ihchildren ihrest =>
    simp [← ihchildren, ← ihrest, Function.comp_def]

/-- An address among the trees from number `i` on leads through one of these. -/
theorem exists_cons_of_mem_placesFrom {p : List Nat × Token} (h : p ∈ placesFrom i tokens) :
    ∃ j rest, p.1 = j :: rest ∧ i ≤ j := by
  fun_induction placesFrom i tokens with
  | case1 => exact absurd h List.not_mem_nil
  | case2 i type line endLine span content info children rest _ ihrest =>
    rw [List.mem_cons, List.mem_append, List.mem_map] at h
    rcases h with rfl | ⟨q, -, rfl⟩ | h
    · exact ⟨i, [], rfl, Nat.le_refl i⟩
    · exact ⟨i, q.1, rfl, Nat.le_refl i⟩
    · obtain ⟨j, more, heq, hj⟩ := ihrest h
      exact ⟨j, more, heq, by omega⟩

theorem placesFrom_sorted (i : Nat) (tokens : List Token) :
    (placesFrom i tokens).Pairwise fun p q => p.1 < q.1 := by
  fun_induction placesFrom i tokens with
  | case1 => exact .nil
  | case2 i type line endLine span content info children rest ihchildren ihrest =>
    rw [List.pairwise_cons, List.pairwise_append, List.pairwise_map]
    refine ⟨?parent, ?children, ihrest, ?siblings⟩
    case parent =>
      intro q hq
      rw [List.mem_append, List.mem_map] at hq
      rcases hq with ⟨r, hr, rfl⟩ | hq
      · obtain ⟨j, more, heq, -⟩ := exists_cons_of_mem_placesFrom hr
        simp [heq]
      · obtain ⟨j, more, heq, hj⟩ := exists_cons_of_mem_placesFrom hq
        simp only [heq, List.cons_lt_cons_iff]
        exact .inl (by omega)
    case children =>
      exact ihchildren.imp fun h => List.cons_lt_cons_iff.mpr (.inr ⟨rfl, h⟩)
    case siblings =>
      intro p hp q hq
      obtain ⟨r, -, rfl⟩ := List.mem_map.mp hp
      obtain ⟨j, more, heq, hj⟩ := exists_cons_of_mem_placesFrom hq
      simp only [heq, List.cons_lt_cons_iff]
      exact .inl (by omega)

theorem mem_placesFrom_iff :
    (a, t) ∈ placesFrom i tokens ↔ ∃ j rest, a = (i + j) :: rest ∧ tokenAt? tokens (j :: rest) = some t := by
  fun_induction placesFrom i tokens generalizing a with
  | case1 => simp [tokenAt?]
  | case2 i type line endLine span content info children rest ihchildren ihrest =>
    rw [List.mem_cons, List.mem_append, ihrest, List.mem_map]
    constructor
    · rintro (h | ⟨⟨b, u⟩, hmem, h⟩ | ⟨j, more, rfl, h⟩)
      · cases h
        exact ⟨0, [], rfl, by simp [tokenAt?_zero]⟩
      · cases h
        obtain ⟨k, more, rfl, h⟩ := ihchildren.mp hmem
        exact ⟨0, _, rfl, by simpa [tokenAt?_zero] using h⟩
      · exact ⟨j + 1, more, by rw [Nat.add_assoc, Nat.add_comm 1], by rwa [tokenAt?_succ]⟩
    · rintro ⟨j, more, rfl, h⟩
      cases j with
      | zero =>
        rw [tokenAt?_zero] at h
        split at h
        · next hmore =>
          cases h
          exact .inl (by simp [hmore])
        · next hmore =>
          obtain ⟨k, rest', rfl⟩ := List.exists_cons_of_ne_nil hmore
          refine .inr (.inl ⟨(k :: rest', t), ihchildren.mpr ⟨k, rest', ?_, h⟩, rfl⟩)
          rw [Nat.zero_add]
      | succ j =>
        rw [tokenAt?_succ] at h
        exact .inr (.inr ⟨j, more, by rw [Nat.add_assoc, Nat.add_comm 1], h⟩)

theorem map_snd_places (tokens : List Token) : (places tokens).map Prod.snd = preorder tokens :=
  map_snd_placesFrom 0 tokens

theorem places_sorted (tokens : List Token) : (places tokens).Pairwise fun p q => p.1 < q.1 :=
  placesFrom_sorted 0 tokens

theorem mem_places_iff : (a, t) ∈ places tokens ↔ tokenAt? tokens a = some t := by
  rw [places, mem_placesFrom_iff]
  constructor
  · rintro ⟨j, rest, rfl, h⟩
    rwa [Nat.zero_add]
  · intro h
    cases a with
    | nil => cases h
    | cons j rest => exact ⟨j, rest, by rw [Nat.zero_add], h⟩

theorem inAddressOrder_preorder (tokens : List Token) : InAddressOrder tokens (preorder tokens) :=
  ⟨places tokens, map_snd_places tokens, places_sorted tokens, fun _ _ => mem_places_iff⟩

theorem mem_preorder_iff : t ∈ preorder tokens ↔ ∃ a, tokenAt? tokens a = some t := by
  simp [← map_snd_places, mem_places_iff]

theorem getLast?_of_sorted {l : List (List Nat × Token)} (h : l.Pairwise fun p q => p.1 < q.1)
    {p : List Nat × Token} : l.getLast? = some p ↔ p ∈ l ∧ ∀ q ∈ l, ¬ p.1 < q.1 := by
  constructor
  · intro hlast
    obtain ⟨init, rfl⟩ := List.getLast?_eq_some_iff.mp hlast
    refine ⟨List.mem_append_right _ List.mem_cons_self, ?_⟩
    intro q hq
    rcases List.mem_append.mp hq with hq | hq
    · exact List.lt_asymm ((List.pairwise_append.mp h).2.2 q hq p List.mem_cons_self)
    · rw [List.mem_singleton.mp hq]
      exact List.lt_irrefl p.1
  · rintro ⟨hp, hmax⟩
    obtain ⟨q, hq⟩ := Option.ne_none_iff_exists'.mp (mt List.getLast?_eq_none_iff.mp (List.ne_nil_of_mem hp))
    obtain ⟨init, rfl⟩ := List.getLast?_eq_some_iff.mp hq
    rcases List.mem_append.mp hp with hinit | hlast
    · have hlt := (List.pairwise_append.mp h).2.2 p hinit q List.mem_cons_self
      exact absurd hlt (hmax q (List.mem_append_right _ List.mem_cons_self))
    · rw [hq, List.mem_singleton.mp hlast]

/-- The last of some tokens is the one with the greatest address. -/
theorem getLast?_filter_preorder {p : Token → Bool} :
    ((preorder tokens).filter p).getLast? = some t ↔
      ∃ a, tokenAt? tokens a = some t ∧ p t = true ∧
        ∀ b u, tokenAt? tokens b = some u → p u = true → ¬ a < b := by
  have hsorted := (places_sorted tokens).filter (p ∘ Prod.snd)
  have hmem (a : List Nat) (t : Token) : (a, t) ∈ (places tokens).filter (p ∘ Prod.snd) ↔
      tokenAt? tokens a = some t ∧ p t = true := by
    rw [List.mem_filter, mem_places_iff, Function.comp_apply]
  rw [← map_snd_places, List.filter_map, List.getLast?_map, Option.map_eq_some_iff]
  constructor
  · rintro ⟨⟨a, u⟩, hlast, rfl⟩
    obtain ⟨hin, hmax⟩ := (getLast?_of_sorted hsorted).mp hlast
    obtain ⟨hat, hp⟩ := (hmem a u).mp hin
    exact ⟨a, hat, hp, fun b v hb hv => hmax (b, v) ((hmem b v).mpr ⟨hb, hv⟩)⟩
  · rintro ⟨a, hat, hp, hmax⟩
    refine ⟨(a, t), (getLast?_of_sorted hsorted).mpr ⟨(hmem a t).mpr ⟨hat, hp⟩, ?_⟩, rfl⟩
    rintro ⟨b, v⟩ hin
    obtain ⟨hb, hv⟩ := (hmem b v).mp hin
    exact hmax b v hb hv

end Places

section Descendants
variable {tokens : List Token} {a b : List Nat} {t u : Token}

theorem tokenAt?_append (ha : tokenAt? tokens a = some t) (hb : tokenAt? t.children b = some u) :
    tokenAt? tokens (a ++ b) = some u := by
  have hne := ne_nil_of_tokenAt? hb
  induction a generalizing tokens with
  | nil => cases ha
  | cons i rest ih =>
    obtain ⟨s, hs, ha⟩ := Option.bind_eq_some_iff.mp ha
    rw [List.cons_append, tokenAt?_cons hs, if_neg (by simp [hne])]
    split at ha
    · next hrest =>
      cases ha
      rwa [hrest, List.nil_append]
    · exact ih ha

theorem lt_append (a : List Nat) (h : b ≠ []) : a < a ++ b := by
  induction a with
  | nil =>
    obtain ⟨i, rest, rfl⟩ := List.exists_cons_of_ne_nil h
    exact List.nil_lt_cons i rest
  | cons i rest ih => exact List.cons_lt_cons_iff.mpr (.inr ⟨rfl, ih⟩)

end Descendants

end DocLint
