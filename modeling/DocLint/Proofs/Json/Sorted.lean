import DocLint.Jsonc.Value
import DocLint.Proofs.Except
import DocLint.Proofs.Lookup
import Mathlib.Data.String.Basic

/-!
# Objects that are sorted by their keys

Every value that is read from a text has its objects sorted, each key once. Such a value is decoded to itself.
-/

namespace DocLint

set_option autoImplicit false

namespace Json

/-- Members in the order of their keys, each key once. -/
def KeysSorted (members : List (String × Json)) : Prop :=
  members.Pairwise fun a b => a.1 < b.1

instance (members : List (String × Json)) : Decidable (KeysSorted members) :=
  inferInstanceAs (Decidable (members.Pairwise fun a b => a.1 < b.1))

/-- A value with all its objects sorted by their keys. -/
inductive Sorted : Json → Prop where
  | null : Sorted .null
  | bool (b : Bool) : Sorted (.bool b)
  | number (n : JsonNumber) : Sorted (.number n)
  | string (s : String) : Sorted (.string s)
  | array {elements : List Json} : (∀ v ∈ elements, Sorted v) → Sorted (.array elements)
  | object {members : List (String × Json)} :
    KeysSorted members → (∀ m ∈ members, Sorted m.2) → Sorted (.object members)

section Members
variable {members : List (String × Json)} {key : String} {value v : Json}

theorem mem_insertMember {m : String × Json} (h : m ∈ insertMember key value members) :
    m = (key, value) ∨ m ∈ members := by
  induction members with
  | nil => exact .inl (List.mem_singleton.mp h)
  | cons first rest ih =>
    obtain ⟨k, old⟩ := first
    rw [insertMember] at h
    split at h
    · rcases List.mem_cons.mp h with rfl | h
      · exact .inl rfl
      · exact .inr (List.mem_cons_of_mem _ h)
    · split at h
      · exact List.mem_cons.mp h
      · rcases List.mem_cons.mp h with rfl | h
        · exact .inr List.mem_cons_self
        · exact (ih h).imp_right (List.mem_cons_of_mem _)

theorem KeysSorted.insertMember (h : KeysSorted members) (key : String) (value : Json) :
    KeysSorted (insertMember key value members) := by
  induction members with
  | nil => exact List.pairwise_singleton _ _
  | cons first rest ih =>
    obtain ⟨k, old⟩ := first
    obtain ⟨hfirst, hrest⟩ := List.pairwise_cons.mp h
    rw [Json.insertMember]
    split
    · next heq =>
      rw [eq_of_beq heq] at hfirst
      exact List.pairwise_cons.mpr ⟨hfirst, hrest⟩
    · next hne =>
      split
      · next hlt =>
        have hlt : key < k := of_decide_eq_true hlt
        refine List.pairwise_cons.mpr ⟨?_, h⟩
        exact List.forall_mem_cons.mpr ⟨hlt, fun m hm => lt_trans hlt (hfirst m hm)⟩
      · next hnlt =>
        have hk : k < key := lt_of_le_of_ne (not_lt.mp (of_decide_eq_false (Bool.eq_false_iff.mpr hnlt)))
          fun heq => hne (beq_iff_eq.mpr heq)
        refine List.pairwise_cons.mpr ⟨?_, ih hrest⟩
        intro m hm
        rcases mem_insertMember hm with rfl | hm
        · exact hk
        · exact hfirst m hm

/-- Only what is found under the key changes. -/
theorem lookup_insertMember (key : String) (value : Json) (members : List (String × Json)) (other : String) :
    (insertMember key value members).lookup other = if other = key then some value else members.lookup other := by
  induction members with
  | nil => exact lookup_cons_eq_ite other (key, value) []
  | cons first rest ih =>
    obtain ⟨k, old⟩ := first
    rw [insertMember]
    split
    · next hk =>
      rw [lookup_cons_eq_ite, lookup_cons_eq_ite, eq_of_beq hk]
      split <;> rfl
    · next hne =>
      split
      · exact lookup_cons_eq_ite other (key, value) _
      · simp only [lookup_cons_eq_ite, ih]
        by_cases hk : other = k
        · have hother : other ≠ key := by
            intro heq
            exact hne (beq_iff_eq.mpr (hk.symm.trans heq))
          rw [if_pos hk, if_neg hother, if_pos hk]
        · rw [if_neg hk, if_neg hk]

theorem KeysSorted.foldl_insertMember (members : List (String × Json)) {done : List (String × Json)}
    (h : KeysSorted done) : KeysSorted (members.foldl (fun sorted m => Json.insertMember m.1 m.2 sorted) done) := by
  induction members generalizing done with
  | nil => exact h
  | cons m rest ih => exact ih (h.insertMember m.1 m.2)

/-- Of several members with one key the last one is found. -/
theorem lookup_foldl_insertMember (members done : List (String × Json)) (key : String) :
    (members.foldl (fun sorted m => insertMember m.1 m.2 sorted) done).lookup key =
      (members.reverse.lookup key).or (done.lookup key) := by
  induction members generalizing done with
  | nil => rfl
  | cons m rest ih =>
    rw [List.foldl_cons, ih, lookup_insertMember, List.reverse_cons, List.lookup_append, Option.or_assoc]
    apply congrArg (Option.or _)
    rw [lookup_cons_eq_ite, List.lookup_nil]
    split <;> rfl

theorem sorted_ofMembers (h : ∀ m ∈ members, m.2.Sorted) : (ofMembers members).Sorted := by
  -- what has been inserted so far is sorted, and the values are those of members
  have hinserted (done : List (String × Json)) (hkeys : KeysSorted done) (hdone : ∀ m ∈ done, m.2.Sorted) :
      (Json.object (members.foldl (fun sorted m => insertMember m.1 m.2 sorted) done)).Sorted := by
    induction members generalizing done with
    | nil => exact .object hkeys hdone
    | cons m rest ih =>
      obtain ⟨hm, hrest⟩ := List.forall_mem_cons.mp h
      apply ih hrest _ (hkeys.insertMember m.1 m.2)
      intro m' hm'
      rcases mem_insertMember hm' with rfl | hm'
      · exact hm
      · exact hdone m' hm'
  exact hinserted [] .nil (List.forall_mem_nil _)

theorem insertMember_of_forall_lt (h : ∀ m ∈ members, m.1 < key) :
    insertMember key value members = members ++ [(key, value)] := by
  induction members with
  | nil => rfl
  | cons first rest ih =>
    obtain ⟨k, old⟩ := first
    obtain ⟨hk, hrest⟩ := List.forall_mem_cons.mp h
    have hne : (k == key) = false := beq_eq_false_iff_ne.mpr (ne_of_lt hk)
    have hnlt : Text.bytesLt key k = false := decide_eq_false (lt_asymm hk)
    rw [insertMember, hne, hnlt, if_neg Bool.false_ne_true, if_neg Bool.false_ne_true, ih hrest, List.cons_append]

/-- Members in order make the object that they are. -/
theorem ofMembers_of_keysSorted (h : KeysSorted members) : ofMembers members = .object members := by
  have hinserted (done : List (String × Json)) (hsorted : KeysSorted (done ++ members)) :
      members.foldl (fun sorted m => insertMember m.1 m.2 sorted) done = done ++ members := by
    induction members generalizing done with
    | nil => rw [List.foldl_nil, List.append_nil]
    | cons m rest ih =>
      obtain ⟨-, hrest, hlt⟩ := List.pairwise_append.mp hsorted
      have hinsert : insertMember m.1 m.2 done = done ++ [m] :=
        insertMember_of_forall_lt fun d hd => hlt d hd m List.mem_cons_self
      rw [List.append_cons] at hsorted
      rw [List.foldl_cons, hinsert, ih (List.pairwise_cons.mp hrest).2 _ hsorted, ← List.append_cons]
  rw [ofMembers, hinserted [] h, List.nil_append]

end Members

end Json

namespace Reading
open Json

theorem elementsToJson_of_forall {elements : List Json} (h : ∀ v ∈ elements, toJson (ofJson v) = .ok v) :
    elementsToJson (elementsOfJson elements) = .ok elements := by
  induction elements with
  | nil => rfl
  | cons v rest ih =>
    obtain ⟨hv, hrest⟩ := List.forall_mem_cons.mp h
    rw [elementsOfJson, elementsToJson, hv, ih hrest]
    rfl

theorem membersToJson_of_forall {members : List (String × Json)}
    (h : ∀ m ∈ members, toJson (ofJson m.2) = .ok m.2) :
    membersToJson (membersOfJson members) = .ok members := by
  induction members with
  | nil => rfl
  | cons m rest ih =>
    obtain ⟨k, v⟩ := m
    obtain ⟨hv, hrest⟩ := List.forall_mem_cons.mp h
    rw [membersOfJson, membersToJson, hv, ih hrest]
    rfl

/-- A sorted value is what it is read as. -/
theorem toJson_ofJson {v : Json} (h : v.Sorted) : toJson (ofJson v) = .ok v := by
  induction h with
  | null | bool b | number n | string s => rfl
  | array _ ih =>
    rw [ofJson, toJson, elementsToJson_of_forall ih]
    rfl
  | object hkeys _ ih =>
    rw [ofJson, toJson, membersToJson_of_forall ih]
    exact congrArg Except.ok (ofMembers_of_keysSorted hkeys)

end Reading

namespace Jsonc
open Json

theorem sorted_decimal (negative : Bool) (magnitude : List Char) {tooLarge : Json} (h : tooLarge.Sorted) :
    (numberValue.decimal negative magnitude tooLarge).Sorted := by
  unfold numberValue.decimal
  split
  · exact .number _
  · exact h

theorem sorted_numberValue (text : List Char) : (numberValue text).Sorted := by
  unfold numberValue
  extract_lets tooLarge
  have htooLarge : tooLarge.Sorted := .string _
  have hhex (n : Nat) (i : Int) : (if maxSigned < n then tooLarge else .number (.integer i)).Sorted := by
    split
    · exact htooLarge
    · exact .number _
  split
  split
  · split
    · exact hhex _ _
    · exact sorted_decimal _ _ htooLarge
  · exact sorted_decimal _ _ htooLarge

/-- What is read of a text in so many steps is sorted: a value, the elements of an array, and the values of
an object's members. -/
theorem sorted_of_read (fuel : Nat) :
    (∀ s v rest, readValue fuel s = .ok (some (v, rest)) → v.Sorted) ∧
    (∀ start taken s vs rest, (∀ v ∈ taken, v.Sorted) → readElements fuel start taken s = .ok (vs, rest) →
      ∀ v ∈ vs, v.Sorted) ∧
    (∀ start taken s ms rest, (∀ m ∈ taken, m.2.Sorted) → readMembers fuel start taken s = .ok (ms, rest) →
      ∀ m ∈ ms, m.2.Sorted) := by
  induction fuel with
  | zero =>
    refine ⟨?_, ?_, ?_⟩
    · intro s v rest h
      cases h
    · intro start taken s vs rest _ h
      cases h
    · intro start taken s ms rest _ h
      cases h
  | succ fuel ih =>
    obtain ⟨hvalue, helements, hmembers⟩ := ih
    refine ⟨?value, ?elements, ?members⟩
    case value =>
      intro s v rest h
      rw [readValue] at h
      split at h
      · cases h
      · simp only [bind_eq_ok_iff] at h
        obtain ⟨next, -, ⟨ms, after⟩, hms, heq⟩ := h
        cases heq
        exact sorted_ofMembers (hmembers _ _ _ _ _ (List.forall_mem_nil _) hms)
      · simp only [bind_eq_ok_iff] at h
        obtain ⟨next, -, ⟨vs, after⟩, hvs, heq⟩ := h
        cases heq
        exact .array (helements _ _ _ _ _ (List.forall_mem_nil _) hvs)
      · cases h
        exact .string _
      · cases h
        exact .bool _
      · cases h
        exact sorted_numberValue _
      · cases h
        exact .null
      all_goals cases h
    case elements =>
      intro start taken s vs rest htaken h
      rw [readElements] at h
      split at h
      · cases h
        exact fun v hv => htaken v (List.mem_reverse.mp hv)
      · rw [bind_eq_ok_iff] at h
        obtain ⟨found, hfound, h⟩ := h
        split at h
        · cases h
        · next v after =>
          simp only [bind_eq_ok_iff] at h
          obtain ⟨_, -, next, -, hrest⟩ := h
          exact helements _ _ _ _ _ (List.forall_mem_cons.mpr ⟨hvalue _ _ _ hfound, htaken⟩) hrest
    case members =>
      intro start taken s ms rest htaken h
      rw [readMembers] at h
      split at h
      · cases h
      · cases h
        exact fun m hm => htaken m (List.mem_reverse.mp hm)
      · split at h
        · cases h
        · rw [bind_eq_ok_iff] at h
          obtain ⟨colon, -, h⟩ := h
          split at h
          · cases h
          · simp only [bind_eq_ok_iff] at h
            obtain ⟨value, -, found, hfound, h⟩ := h
            split at h
            · cases h
            · next v after =>
              simp only [bind_eq_ok_iff] at h
              obtain ⟨_, -, next, -, hrest⟩ := h
              exact hmembers _ _ _ _ _ (List.forall_mem_cons.mpr ⟨hvalue _ _ _ hfound, htaken⟩) hrest

/-- The value of a text is sorted. -/
theorem sorted_of_parse {text : String} {v : Json} (h : parse text = .ok (some v)) : v.Sorted := by
  rw [parse, mapError_eq_ok_iff, read] at h
  simp only [bind_eq_ok_iff] at h
  obtain ⟨start, -, found, hfound, h⟩ := h
  split at h
  · cases h
  · next v' rest =>
    rw [bind_eq_ok_iff] at h
    obtain ⟨after, -, h⟩ := h
    split at h
    · cases h
    · cases h
      exact (sorted_of_read _).1 _ _ _ hfound

end Jsonc

end DocLint
