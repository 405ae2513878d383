import DocLint.Proofs.Config.Decoding
import DocLint.Rules.LintJavascript

/-!
# The values of the options of `lint-javascript`

The options are an object with the fields that there are, or nothing at all. As they are decoded as a record, an
array with the values of the first fields in order stands for them as well. A field without a value has its default,
and so have prefixes that are `null`.
-/

namespace DocLint

set_option autoImplicit false

theorem map_unit_eq_ok_iff {ε α : Type} {x : Except ε α} : (x.map fun _ => ()) = .ok () ↔ ∃ a, x = .ok a := by
  cases x <;> simp [Except.map]

namespace Decode
variable {names : List String} {check : String → Reading → Result Unit}

/-- Where no other members are let through, all members are taken: fields, each once and well-formed. -/
theorem collect_reject_eq_ok_iff {members : List (String × Reading)} {taken found : Fields} :
    collect names .reject check taken members = .ok found ↔
      found = taken ++ members ∧ (∀ m ∈ members, m.1 ∈ names ∧ check m.1 m.2 = .ok ()) ∧
      (members.map Prod.fst).Nodup ∧ ∀ m ∈ members, m.1 ∉ taken.map Prod.fst := by
  induction members generalizing taken with
  | nil =>
    rw [collect, Except.ok.injEq, List.append_nil]
    simp [eq_comm]
  | cons m rest ih =>
    obtain ⟨k, r⟩ := m
    rw [collect]
    by_cases hk : k ∈ names
    · rw [if_pos (List.contains_iff_mem.mpr hk)]
      by_cases hold : k ∈ taken.map Prod.fst
      · rw [if_pos (isSome_lookup_iff.mpr hold)]
        constructor
        · intro h
          cases h
        · rintro ⟨-, -, -, hfresh⟩
          exact absurd hold (hfresh (k, r) List.mem_cons_self)
      · rw [if_neg (mt isSome_lookup_iff.mp hold), bind_eq_ok_iff]
        simp only [ih, ← List.append_cons, List.forall_mem_cons, List.map_cons, List.nodup_cons]
        constructor
        · rintro ⟨⟨⟩, hcheck, hfound, hrest, hnodup, hfresh⟩
          refine ⟨hfound, ⟨⟨hk, hcheck⟩, hrest⟩, ⟨?_, hnodup⟩, hold, ?_⟩
          · intro hmem
            obtain ⟨p, hp, rfl⟩ := List.mem_map.mp hmem
            exact hfresh p hp (by simp)
          · intro p hp hmem
            exact hfresh p hp (by simp [hmem])
        · rintro ⟨hfound, ⟨⟨-, hcheck⟩, hrest⟩, ⟨hown, hnodup⟩, -, hfresh⟩
          refine ⟨(), hcheck, hfound, hrest, hnodup, ?_⟩
          intro p hp hmem
          rw [List.map_append, List.mem_append] at hmem
          rcases hmem with hmem | hmem
          · exact hfresh p hp hmem
          · obtain rfl : p.1 = k := by simpa using hmem
            exact hown (List.mem_map_of_mem hp)
    · rw [if_neg (mt List.contains_iff_mem.mp hk)]
      constructor
      · intro h
        cases h
      · rintro ⟨-, hfields, -⟩
        exact absurd (hfields (k, r) List.mem_cons_self).1 hk

/-- Where every field may be left out, the elements are taken for the first fields, as far as there are any. -/
theorem collectInOrder_eq_ok_iff {record : String} {count place : Nat} {elements rest : List Reading}
    {found : Fields} :
    collectInOrder record count (fun _ => true) check none place names elements = .ok (found, rest) ↔
      found = names.zip elements ∧ rest = elements.drop names.length ∧
      ∀ m ∈ names.zip elements, check m.1 m.2 = .ok () := by
  induction names generalizing place elements found with
  | nil => simp [collectInOrder, eq_comm]
  | cons n names ih =>
    cases elements with
    | nil =>
      rw [collectInOrder]
      simp only [ending, bind, Except.bind, ↓reduceIte, ih]
      simp
    | cons r elements =>
      rw [collectInOrder]
      simp only [bind_eq_ok_iff, pure, Except.pure, Except.ok.injEq, Prod.mk.injEq, List.zip_cons_cons,
        List.length_cons, List.drop_succ_cons, List.forall_mem_cons]
      constructor
      · rintro ⟨⟨⟩, hcheck, ⟨fields, rest'⟩, hfields, rfl, rfl⟩
        obtain ⟨rfl, rfl, hrest⟩ := ih.mp hfields
        exact ⟨rfl, rfl, hcheck, hrest⟩
      · rintro ⟨rfl, rfl, hcheck, hrest⟩
        exact ⟨(), hcheck, (_, _), ih.mpr ⟨rfl, rfl, hrest⟩, rfl, rfl⟩

section Fields
variable (shape : Shape) {found : Fields}

theorem fields_object_eq_ok_iff (hunknown : shape.unknown = .reject) {members : List (String × Reading)} :
    fields shape (.object members none) = .ok found ↔
      found = members ∧ (members.map Prod.fst).Nodup ∧
      ∀ m ∈ members, m.1 ∈ shape.names ∧ shape.check m.1 m.2 = .ok () := by
  rw [fields, hunknown]
  simp only [ending, bind_eq_ok_iff, collect_reject_eq_ok_iff, List.nil_append, pure, Except.pure,
    Except.ok.injEq]
  constructor
  · rintro ⟨_, ⟨rfl, hfields, hnodup, -⟩, -, -, rfl⟩
    exact ⟨rfl, hnodup, hfields⟩
  · rintro ⟨rfl, hnodup, hfields⟩
    exact ⟨found, ⟨rfl, hfields, hnodup, fun _ _ => List.not_mem_nil⟩, (), trivial, rfl⟩

theorem fields_array_eq_ok_iff (hoptional : shape.optional = fun _ => true) (hstreamed : shape.streamed = false)
    {elements : List Reading} :
    fields shape (.array elements none) = .ok found ↔
      found = shape.names.zip elements ∧ elements.length ≤ shape.names.length ∧
      ∀ m ∈ shape.names.zip elements, shape.check m.1 m.2 = .ok () := by
  rw [fields, hoptional, hstreamed]
  simp only [bind_eq_ok_iff, Prod.exists, collectInOrder_eq_ok_iff]
  constructor
  · rintro ⟨taken, rest, ⟨rfl, rfl, hchecks⟩, hrest⟩
    split at hrest
    · next hnone =>
      rw [List.isEmpty_iff, List.drop_eq_nil_iff] at hnone
      obtain ⟨-, -, hfound⟩ := bind_eq_ok_iff.mp hrest
      exact ⟨(Except.ok.inj hfound).symm, hnone, hchecks⟩
    · simp at hrest
  · rintro ⟨rfl, hlength, hchecks⟩
    refine ⟨_, _, ⟨rfl, rfl, hchecks⟩, ?_⟩
    rw [if_pos (List.isEmpty_iff.mpr (List.drop_eq_nil_iff.mpr hlength))]
    rfl

end Fields

end Decode

namespace LintJavascript

/-- An array of strings. -/
def IsTexts (v : Json) : Prop :=
  ∃ texts : List String, v = .array (texts.map .string)

/-- A member that the options may have. -/
def IsOption (m : String × Json) : Prop :=
  m.1 = "languages" ∧ IsTexts m.2 ∨
    (m.1 = "allow_prefixes" ∨ m.1 = "deny_prefixes") ∧ (m.2 = .null ∨ IsTexts m.2)

/-- An object whose members are options, under different keys. -/
def IsOptionsObject (v : Json) : Prop :=
  ∃ members, v = .object members ∧ (members.map Prod.fst).Nodup ∧ ∀ m ∈ members, IsOption m

/-- An array with the values of the first options in order. -/
def IsOptionsList (v : Json) : Prop :=
  ∃ elements, v = .array elements ∧ elements.length ≤ 3 ∧
    ∀ m ∈ ["languages", "allow_prefixes", "deny_prefixes"].zip elements, IsOption m

/-- The value of one of the options: what an object has under its name, or what an array has at its place. -/
def valueOf? (options : Json) (name : String) : Option Json :=
  match options with
  | .object members => members.lookup name
  | .array elements => (["languages", "allow_prefixes", "deny_prefixes"].zip elements).lookup name
  | _ => none

/-- The languages that are set by a value, or the usual ones where there is none. -/
inductive LanguagesOf : Option Json → List String → Prop
  | usual : LanguagesOf none ["js", "javascript", "jsx", "mjs", "cjs"]
  | listed (texts : List String) : LanguagesOf (some (.array (texts.map .string))) texts

/-- The prefixes that are set by a value. Not only the absence of a value but also `null` stands for the usual
ones. -/
inductive PrefixesOf (usual : List String) : Option Json → List String → Prop
  | absent : PrefixesOf usual none usual
  | null : PrefixesOf usual (some .null) usual
  | listed (texts : List String) : PrefixesOf usual (some (.array (texts.map .string))) texts

/-- The options are those that a value sets. Unless something else is set, nothing is allowed and the rules of four
tools are denied. -/
structure Options.Holds (o : Options) (v : Json) : Prop where
  languages : LanguagesOf (valueOf? v "languages") o.languages
  allow : PrefixesOf [] (valueOf? v "allow_prefixes") o.filter.allow
  deny : PrefixesOf ["jsdoc/", "n/", "regexp/", "unicorn/"] (valueOf? v "deny_prefixes") o.filter.deny

namespace Options
variable {v : Json}

theorem string_ofJson_eq_ok_iff {s : String} : Decode.string (Reading.ofJson v) = .ok s ↔ v = .string s := by
  cases v <;> simp [Reading.ofJson, Decode.string, Decode.mismatch]

theorem elements_ofJson_eq_ok_iff {vs : List Json} {texts : List String} :
    Decode.elements Decode.string (Reading.elementsOfJson vs) = .ok texts ↔ vs = texts.map .string := by
  induction vs generalizing texts with
  | nil =>
    rw [Reading.elementsOfJson, Decode.elements, Except.ok.injEq, eq_comm (a := []), eq_comm (a := []),
      List.map_eq_nil_iff]
  | cons v rest ih =>
    rw [Reading.elementsOfJson, Decode.elements]
    simp only [bind_eq_ok_iff, string_ofJson_eq_ok_iff, ih, pure, Except.pure, Except.ok.injEq]
    constructor
    · rintro ⟨s, rfl, texts, rfl, rfl⟩
      rfl
    · intro h
      obtain ⟨s, texts, rfl, rfl, rfl⟩ := List.map_eq_cons_iff.mp h.symm
      exact ⟨s, rfl, texts, rfl, rfl⟩

theorem texts_ofJson_eq_ok_iff {l : List String} :
    texts (Reading.ofJson v) = .ok l ↔ v = .array (l.map .string) := by
  cases v with
  | array elements =>
    simp only [texts, Reading.ofJson, Decode.list, bind_eq_ok_iff, elements_ofJson_eq_ok_iff, Decode.ending, pure,
      Except.pure, Except.ok.injEq, Json.array.injEq]
    constructor
    · rintro ⟨_, h, -, -, rfl⟩
      exact h
    · intro h
      exact ⟨l, h, (), trivial, rfl⟩
  | null | bool _ | number _ | string _ | object _ =>
    simp [texts, Reading.ofJson, Decode.list, Decode.mismatch]

theorem option_texts_ofJson_eq_ok_iff {o : Option (List String)} :
    Decode.option texts (Reading.ofJson v) = .ok o ↔
      v = .null ∧ o = none ∨ ∃ l, v = .array (l.map .string) ∧ o = some l := by
  simp only [← texts_ofJson_eq_ok_iff]
  cases v with
  | null => simp [Reading.ofJson, Decode.option, texts, Decode.list, Decode.mismatch, eq_comm]
  | bool _ | number _ | string _ | array _ | object _ =>
    simp only [Reading.ofJson, Decode.option, reduceCtorEq, false_and, false_or]
    generalize texts _ = outcome
    cases outcome <;> simp [Except.map, eq_comm]

theorem isOption_iff {name : String} :
    IsOption (name, v) ↔ name ∈ shape.names ∧ shape.check name (Reading.ofJson v) = .ok () := by
  have hnames : shape.names = ["languages", "allow_prefixes", "deny_prefixes"] := rfl
  rw [hnames, shape]
  by_cases hname : name = "languages"
  · subst hname
    simp [IsOption, IsTexts, map_unit_eq_ok_iff, texts_ofJson_eq_ok_iff]
  · simp [IsOption, IsTexts, hname, map_unit_eq_ok_iff, option_texts_ofJson_eq_ok_iff, exists_or]

theorem isOptionsObject_iff {members : List (String × Json)} :
    IsOptionsObject (.object members) ↔
      ∃ found, Decode.fields shape (Reading.ofJson (.object members)) = .ok found := by
  have hkeys : (members.map fun m => (m.1, Reading.ofJson m.2)).map Prod.fst = members.map Prod.fst := by
    rw [List.map_map]
    rfl
  simp only [Reading.ofJson, Reading.membersOfJson_eq_map, Decode.fields_object_eq_ok_iff shape rfl, hkeys,
    exists_eq_left, List.forall_mem_map, ← isOption_iff]
  constructor
  · rintro ⟨_, ⟨⟩, hoptions⟩
    exact hoptions
  · intro hoptions
    exact ⟨members, rfl, hoptions⟩

theorem isOptionsList_iff {elements : List Json} :
    IsOptionsList (.array elements) ↔
      ∃ found, Decode.fields shape (Reading.ofJson (.array elements)) = .ok found := by
  have hchecks : (∀ m ∈ shape.names.zip (elements.map Reading.ofJson), shape.check m.1 m.2 = .ok ()) ↔
      ∀ m ∈ shape.names.zip elements, IsOption m := by
    rw [List.zip_map_right, List.forall_mem_map]
    refine forall₂_congr fun m hm => ?_
    rw [isOption_iff, and_iff_right (List.of_mem_zip hm).1]
    rfl
  simp only [Reading.ofJson, Reading.elementsOfJson_eq_map, Decode.fields_array_eq_ok_iff shape rfl rfl,
    exists_eq_left, hchecks, List.length_map]
  constructor
  · rintro ⟨_, ⟨⟩, hoptions⟩
    exact hoptions
  · intro hoptions
    exact ⟨elements, rfl, hoptions⟩

theorem checked_of_fields {found : Decode.Fields} (h : Decode.fields shape (Reading.ofJson v) = .ok found) :
    ∀ m ∈ found, shape.check m.1 m.2 = .ok () := by
  cases v with
  | array elements =>
    obtain ⟨rfl, -, hchecks⟩ := (Decode.fields_array_eq_ok_iff shape rfl rfl).mp h
    exact hchecks
  | object members =>
    obtain ⟨rfl, -, hfields⟩ := (Decode.fields_object_eq_ok_iff shape rfl).mp h
    exact fun m hm => (hfields m hm).2
  | null | bool _ | number _ | string _ => cases h

theorem exists_defaulted {α : Type} {found : Decode.Fields} (hchecked : ∀ m ∈ found, shape.check m.1 m.2 = .ok ())
    (name : String) (decode : Reading → Decode.Result α) (default : α)
    (hdecode : ∀ r, shape.check name r = .ok () → ∃ a, decode r = .ok a) :
    ∃ a, Decode.defaulted found name decode default = .ok a := by
  unfold Decode.defaulted
  cases hlookup : found.lookup name with
  | none => exact ⟨default, rfl⟩
  | some r => exact hdecode r (hchecked (name, r) (mem_of_lookup hlookup))

/-- Fields that are well-formed where they stand can be decoded. -/
theorem exists_decode_iff :
    (∃ o, decode (Reading.ofJson v) = .ok o) ↔ ∃ found, Decode.fields shape (Reading.ofJson v) = .ok found := by
  constructor
  · rintro ⟨o, ho⟩
    obtain ⟨found, hfound, -⟩ := bind_eq_ok_iff.mp ho
    exact ⟨found, hfound⟩
  · rintro ⟨found, hfound⟩
    have hchecked := checked_of_fields hfound
    obtain ⟨languages, hlanguages⟩ := exists_defaulted hchecked "languages" texts defaultLanguages
      fun r hr => map_unit_eq_ok_iff.mp hr
    obtain ⟨allow, hallow⟩ := exists_defaulted hchecked "allow_prefixes" (Decode.option texts) none
      fun r hr => map_unit_eq_ok_iff.mp hr
    obtain ⟨deny, hdeny⟩ := exists_defaulted hchecked "deny_prefixes" (Decode.option texts) none
      fun r hr => map_unit_eq_ok_iff.mp hr
    refine ⟨⟨languages, allow, deny⟩, ?_⟩
    rw [decode, hfound]
    simp only [bind, Except.bind, hlanguages, hallow, hdeny]
    rfl

theorem exists_ofJson_iff :
    (∃ o, ofJson v = .ok o) ↔ v = .null ∨ IsOptionsObject v ∨ IsOptionsList v := by
  have hdecode (hv : v ≠ .null) : ofJson v = decode (Reading.ofJson v) := by
    cases v with
    | null => exact absurd rfl hv
    | bool _ | number _ | string _ | array _ | object _ => rfl
  cases v with
  | null => exact iff_of_true ⟨_, rfl⟩ (.inl rfl)
  | array elements =>
    rw [hdecode (by simp), exists_decode_iff, ← isOptionsList_iff]
    simp [IsOptionsObject]
  | object members =>
    rw [hdecode (by simp), exists_decode_iff, ← isOptionsObject_iff]
    simp [IsOptionsList]
  | bool _ | number _ | string _ =>
    rw [hdecode (by simp), exists_decode_iff]
    simp [IsOptionsObject, IsOptionsList, Reading.ofJson, Decode.fields, Decode.mismatch]

section Defaulted
variable {found : Decode.Fields} {name : String} {value : Option Json}

end Defaulted

end Options

end LintJavascript

end DocLint
