import DocLint.Text.Utf8

/-!
# Slices of a text

A slice between two byte offsets is what stands between the texts before them.
-/

namespace DocLint.Text

set_option autoImplicit false

theorem byteLength_reverse (cs : List Char) : byteLength cs.reverse = byteLength cs := by
  induction cs with
  | nil => rfl
  | cons c rest ih =>
    rw [List.reverse_cons, byteLength_append, ih, byteLength_cons, byteLength_cons, byteLength_nil]
    omega

theorem dropBytes_append (a b : List Char) : dropBytes (byteLength a) (a ++ b) = some b := by
  induction a with
  | nil =>
    cases b with
    | nil => rfl
    | cons c rest => rfl
  | cons c rest ih =>
    have hpos := c.utf8Size_pos
    obtain ⟨n, hn⟩ : ∃ n, c.utf8Size + byteLength rest = n + 1 :=
      ⟨c.utf8Size + byteLength rest - 1, by omega⟩
    rw [byteLength_cons, hn, List.cons_append, dropBytes, if_pos (by omega)]
    rw [← hn, Nat.add_sub_cancel_left, ih]

theorem takeBytes_append (a b : List Char) : takeBytes (byteLength a) (a ++ b) = some a := by
  induction a with
  | nil =>
    cases b with
    | nil => rfl
    | cons c rest => rfl
  | cons c rest ih =>
    have hpos := c.utf8Size_pos
    obtain ⟨n, hn⟩ : ∃ n, c.utf8Size + byteLength rest = n + 1 :=
      ⟨c.utf8Size + byteLength rest - 1, by omega⟩
    rw [byteLength_cons, hn, List.cons_append, takeBytes, if_pos (by omega)]
    rw [← hn, Nat.add_sub_cancel_left, ih, Option.map_some]

theorem slice?_of_split {source : String} {before middle after : List Char}
    (h : source.toList = before ++ middle ++ after) :
    slice? source (byteLength before) (byteLength (before ++ middle)) = some (String.ofList middle) := by
  have hle : byteLength before ≤ byteLength (before ++ middle) := by
    rw [byteLength_append]
    omega
  rw [slice?, if_pos hle, h, List.append_assoc, dropBytes_append, Option.bind_some, byteLength_append,
    Nat.add_sub_cancel_left, takeBytes_append, Option.map_some]

theorem split_of_dropBytes {n : Nat} {cs rest : List Char} (h : dropBytes n cs = some rest) :
    ∃ before, cs = before ++ rest ∧ byteLength before = n := by
  fun_induction dropBytes n cs with
  | case1 cs =>
    cases h
    exact ⟨[], rfl, rfl⟩
  | case2 => cases h
  | case3 n c more hle ih =>
    obtain ⟨before, rfl, hlength⟩ := ih h
    refine ⟨c :: before, rfl, ?_⟩
    rw [byteLength_cons, hlength]
    omega
  | case4 => cases h

theorem split_of_takeBytes {n : Nat} {cs taken : List Char} (h : takeBytes n cs = some taken) :
    ∃ after, cs = taken ++ after ∧ byteLength taken = n := by
  fun_induction takeBytes n cs generalizing taken with
  | case1 cs =>
    cases h
    exact ⟨cs, rfl, rfl⟩
  | case2 => cases h
  | case3 n c more hle ih =>
    obtain ⟨taken', htaken, rfl⟩ := Option.map_eq_some_iff.mp h
    obtain ⟨after, rfl, hlength⟩ := ih htaken
    refine ⟨after, rfl, ?_⟩
    rw [byteLength_cons, hlength]
    omega
  | case4 => cases h

/-- A slice is what stands between two parts of the source, the first of which ends where the slice begins. -/
theorem slice?_eq_some_iff {source s : String} {start stop : Nat} :
    slice? source start stop = some s ↔ ∃ before after, source.toList = before ++ s.toList ++ after ∧
      byteLength before = start ∧ byteLength (before ++ s.toList) = stop := by
  constructor
  · intro h
    unfold slice? at h
    split at h
    · next hle =>
      obtain ⟨middle, hmiddle, rfl⟩ := Option.map_eq_some_iff.mp h
      obtain ⟨rest, hdrop, htake⟩ := Option.bind_eq_some_iff.mp hmiddle
      obtain ⟨before, hbefore, rfl⟩ := split_of_dropBytes hdrop
      obtain ⟨after, rfl, hlength⟩ := split_of_takeBytes htake
      refine ⟨before, after, ?_, rfl, ?_⟩
      · rw [hbefore, String.toList_ofList, List.append_assoc]
      · rw [String.toList_ofList, byteLength_append, hlength]
        omega
    · cases h
  · rintro ⟨before, after, hsource, rfl, rfl⟩
    rw [slice?_of_split hsource, String.ofList_toList]

theorem byteLength_eq_zero_iff {cs : List Char} : byteLength cs = 0 ↔ cs = [] := by
  cases cs with
  | nil => simp
  | cons c rest =>
    have hpos := c.utf8Size_pos
    rw [byteLength_cons]
    constructor
    · intro h
      omega
    · intro h
      cases h

/-- Of two texts that begin the same text, the one with fewer bytes begins the other. -/
theorem isPrefix_of_byteLength_le {p q cs : List Char} (hp : p <+: cs) (hq : q <+: cs)
    (h : byteLength p ≤ byteLength q) : p <+: q := by
  rcases List.prefix_or_prefix_of_prefix hp hq with hpq | ⟨rest, rfl⟩
  · exact hpq
  · rw [byteLength_append] at h
    have hrest : rest = [] := byteLength_eq_zero_iff.mp (by omega)
    simp [hrest]

theorem findOffset?_eq_none_iff {p : Char → Bool} {cs : List Char} :
    findOffset? p cs = none ↔ ∀ c ∈ cs, p c = false := by
  induction cs with
  | nil => simp [findOffset?]
  | cons c rest ih =>
    rw [findOffset?, List.forall_mem_cons]
    cases hc : p c with
    | true => simp
    | false => simp [ih]

theorem findOffset?_eq_some_iff {p : Char → Bool} {cs : List Char} {n : Nat} :
    findOffset? p cs = some n ↔ ∃ before c after, cs = before ++ c :: after ∧
      (∀ b ∈ before, p b = false) ∧ p c = true ∧ n = byteLength before := by
  induction cs generalizing n with
  | nil => simp [findOffset?]
  | cons d rest ih =>
    rw [findOffset?]
    cases hd : p d with
    | true =>
      constructor
      · intro h
        exact ⟨[], d, rest, rfl, by simp, hd, by simpa using h.symm⟩
      · rintro ⟨before, c, after, hsplit, hbefore, -, rfl⟩
        cases before with
        | nil => rfl
        | cons b before =>
          obtain ⟨rfl, -⟩ := List.cons.inj hsplit
          rw [hbefore d List.mem_cons_self] at hd
          cases hd
    | false =>
      rw [if_neg Bool.false_ne_true, Option.map_eq_some_iff]
      constructor
      · rintro ⟨m, hm, rfl⟩
        obtain ⟨before, c, after, rfl, hbefore, hc, rfl⟩ := ih.mp hm
        exact ⟨d :: before, c, after, rfl, List.forall_mem_cons.mpr ⟨hd, hbefore⟩, hc, rfl⟩
      · rintro ⟨before, c, after, hsplit, hbefore, hc, rfl⟩
        cases before with
        | nil =>
          obtain ⟨rfl, -⟩ := List.cons.inj hsplit
          rw [hc] at hd
          cases hd
        | cons b before =>
          obtain ⟨rfl, rfl⟩ := List.cons.inj hsplit
          exact ⟨byteLength before, ih.mpr ⟨before, c, after, rfl, (List.forall_mem_cons.mp hbefore).2, hc, rfl⟩, rfl⟩

end DocLint.Text
