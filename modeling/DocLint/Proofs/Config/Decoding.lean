import DocLint.Config.Reader
import DocLint.Proofs.Config.Schema
import DocLint.Proofs.Json.Sorted
import Mathlib.Data.List.Nodup

/-!
# Values that are configurations

What the schema accepts can be decoded, and each member means what its type says. Everything else is refused for
its form, so nothing is refused while it is decoded.
-/

namespace DocLint

set_option autoImplicit false

namespace Decode

/-- Members with different keys are taken if they are fields, provided that all of them can be decoded. -/
theorem collect_ignore {names : List String} {check : String → Reading → Result Unit} {taken : Fields}
    {members : List (String × Reading)} (hkeys : ((taken ++ members).map Prod.fst).Nodup)
    (hcheck : ∀ m ∈ members, names.contains m.1 = true → check m.1 m.2 = .ok ())
    (hskip : ∀ m ∈ members, skip m.2 = .ok ()) :
    collect names .ignore check taken members =
      .ok (taken ++ members.filter fun m => names.contains m.1) := by
  induction members generalizing taken with
  | nil => rw [collect, List.filter_nil, List.append_nil]
  | cons m rest ih =>
    obtain ⟨k, r⟩ := m
    obtain ⟨hcheckfirst, hcheckrest⟩ := List.forall_mem_cons.mp hcheck
    obtain ⟨hskipfirst, hskiprest⟩ := List.forall_mem_cons.mp hskip
    rw [List.map_append, List.map_cons] at hkeys
    have hdistinct := List.nodup_middle.mp hkeys
    rw [collect]
    by_cases hk : names.contains k = true
    · -- a field can only be taken once, and no other member has its key
      have hfresh : taken.lookup k = none := by
        apply lookup_eq_none_of_not_mem
        intro hmem
        exact (List.nodup_cons.mp hdistinct).1 (List.mem_append_left _ hmem)
      have htaken : ((taken ++ [(k, r)] ++ rest).map Prod.fst).Nodup := by simpa using hkeys
      have hfilter : ((k, r) :: rest).filter (fun m => names.contains m.1) =
          (k, r) :: rest.filter fun m => names.contains m.1 := List.filter_cons_of_pos hk
      have hmore := ih htaken hcheckrest hskiprest
      rw [← List.append_cons] at hmore
      rw [if_pos hk, hfresh, hcheckfirst hk, hfilter]
      exact hmore
    · have hrest : ((taken ++ rest).map Prod.fst).Nodup := by
        rw [List.map_append]
        exact (List.nodup_cons.mp hdistinct).2
      have hfilter : ((k, r) :: rest).filter (fun m => names.contains m.1) =
          rest.filter fun m => names.contains m.1 := List.filter_cons_of_neg hk
      rw [if_neg hk, hskipfirst, hfilter]
      exact ih hrest hcheckrest hskiprest

end Decode

namespace Reading

theorem elementsOfJson_eq_map (elements : List Json) : elementsOfJson elements = elements.map ofJson := by
  induction elements with
  | nil => rfl
  | cons v rest ih => rw [elementsOfJson, ih, List.map_cons]

theorem membersOfJson_eq_map (members : List (String × Json)) :
    membersOfJson members = members.map fun m => (m.1, ofJson m.2) := by
  induction members with
  | nil => rfl
  | cons m rest ih =>
    obtain ⟨k, v⟩ := m
    rw [membersOfJson, ih, List.map_cons]

end Reading

namespace Config

/-- The entry that a member of the options is. -/
inductive EntryOf : String × Json → String × RuleOption → Prop where
  | enabled (key : String) (b : Bool) : EntryOf (key, .bool b) (key, .enabled b)
  | severity (key s : String) : EntryOf (key, .string s) (key, .severity s)
  | options (key : String) (members : List (String × Json)) :
    EntryOf (key, .object members) (key, .options (.object members))

def IsBool (x : Json) (b : Bool) : Prop :=
  x = .bool b

def IsStrings (x : Json) (strings : List String) : Prop :=
  x = .array (strings.map .string)

def IsEntries (x : Json) (options : List (String × RuleOption)) : Prop :=
  ∃ entries, x = .object entries ∧ List.Forall₂ EntryOf entries options

/-- A field has the meaning of its member, or is as it is without one. -/
def Takes {α : Type} (v : Json) (key : String) (means : Json → α → Prop) (absent a : α) : Prop :=
  (∃ x, v.member? key = some x ∧ means x a) ∨ v.member? key = none ∧ a = absent

/-- What a configuration has from the value that it is decoded from. -/
structure DecodedFrom (v : Json) (c : Config) : Prop where
  enabledByDefault : Takes v "default" IsBool true c.enabledByDefault
  options : Takes v "options" IsEntries [] c.options
  includes : Takes v "include" IsStrings [] c.includes
  excludes : Takes v "exclude" IsStrings [] c.excludes
  deduplicate : Takes v "deduplicate" IsBool false c.deduplicate
  timings : Takes v "timings" IsBool false c.timings
  baseDir : c.baseDir = none

/-- The value without the member with a key. -/
def without (key : String) : Json → Json
  | .object members => .object (members.filter fun m => m.1 != key)
  | v => v

/-- An entry that no rule may have. -/
inductive IsNoEntry : Json → Prop where
  | null : IsNoEntry .null
  | number (n : JsonNumber) : IsNoEntry (.number n)
  | array (elements : List Json) : IsNoEntry (.array elements)
  | string {s : String} : s ≠ "error" → s ≠ "warning" → s ≠ "off" → IsNoEntry (.string s)

/-- A value that is no configuration. -/
inductive Misfit : Json → Prop where
  | noObject {v : Json} : (∀ members, v ≠ .object members) → Misfit v
  | unknownKey {members : List (String × Json)} {key : String} {x : Json} : (key, x) ∈ members →
    Field.ofKey? key = none → Misfit (.object members)
  | wrongType {members : List (String × Json)} {key : String} {x : Json} {field : Field} :
    (key, x) ∈ members → Field.ofKey? key = some field → ¬ field.HasType x → Misfit (.object members)
  | noEntry {members entries : List (String × Json)} {key : String} {x : Json} :
    ("options", .object entries) ∈ members → (key, x) ∈ entries → IsNoEntry x → Misfit (.object members)

section Fields
variable {x : Json}

def Field.key : Field → String
  | schema => "$schema"
  | default => "default"
  | options => "options"
  | includes => "include"
  | excludes => "exclude"
  | deduplicate => "deduplicate"
  | timings => "timings"

theorem key_of_ofKey? {key : String} {field : Field} (h : Field.ofKey? key = some field) : key = field.key := by
  have hmem := mem_of_lookup h
  simp only [List.mem_cons, List.not_mem_nil, or_false, Prod.mk.injEq] at hmem
  rcases hmem with ⟨rfl, rfl⟩ | ⟨rfl, rfl⟩ | ⟨rfl, rfl⟩ | ⟨rfl, rfl⟩ | ⟨rfl, rfl⟩ | ⟨rfl, rfl⟩ | ⟨rfl, rfl⟩
  all_goals rfl

theorem decode_strings (strings : List String) :
    Decode.list Decode.string (Reading.ofJson (.array (strings.map .string))) = .ok strings := by
  have helements : Decode.elements Decode.string (Reading.elementsOfJson (strings.map .string)) = .ok strings := by
    induction strings with
    | nil => rfl
    | cons s rest ih =>
      rw [List.map_cons, Reading.elementsOfJson, Decode.elements, ih]
      rfl
  rw [Reading.ofJson, Decode.list, helements]
  rfl

theorem decode_json (h : x.Sorted) : Decode.json (Reading.ofJson x) = .ok x := by
  rw [Decode.json, Reading.toJson_ofJson h]
  rfl

theorem exists_entryOf (key : String) (hentry : isEntry x = true) (hsorted : x.Sorted) :
    ∃ o, decodeOption (Reading.ofJson x) = .ok o ∧ EntryOf (key, x) (key, o) := by
  rw [decodeOption, decode_json hsorted]
  cases x with
  | bool b => exact ⟨_, rfl, .enabled key b⟩
  | string s => exact ⟨_, rfl, .severity key s⟩
  | object members => exact ⟨_, rfl, .options key members⟩
  | null | number _ | array _ => cases hentry

theorem exists_entries {entries : List (String × Json)} (hentries : ∀ e ∈ entries, isEntry e.2 = true)
    (hsorted : ∀ e ∈ entries, e.2.Sorted) :
    ∃ options, Decode.map decodeOption (Reading.ofJson (.object entries)) = .ok options ∧
      List.Forall₂ EntryOf entries options := by
  have hmembers : ∃ options, Decode.members decodeOption (Reading.membersOfJson entries) = .ok options ∧
      List.Forall₂ EntryOf entries options := by
    induction entries with
    | nil => exact ⟨[], rfl, .nil⟩
    | cons e rest ih =>
      obtain ⟨k, x⟩ := e
      obtain ⟨hx, hrest⟩ := List.forall_mem_cons.mp hentries
      obtain ⟨hxsorted, hrestsorted⟩ := List.forall_mem_cons.mp hsorted
      obtain ⟨o, ho, hentry⟩ := exists_entryOf k hx hxsorted
      obtain ⟨more, hmore, hforall⟩ := ih hrest hrestsorted
      refine ⟨(k, o) :: more, ?_, .cons hentry hforall⟩
      rw [Reading.membersOfJson, Decode.members, ho, hmore]
      rfl
  obtain ⟨options, hoptions, hforall⟩ := hmembers
  refine ⟨options, ?_, hforall⟩
  rw [Reading.ofJson, Decode.map, hoptions]
  rfl

theorem check_of_holds {field : Field} (hholds : field.Holds x) (hsorted : x.Sorted)
    (hfield : shape.names.contains field.key = true) : shape.check field.key (Reading.ofJson x) = .ok () := by
  obtain ⟨htype, hentries⟩ := hholds
  cases field with
  | schema => exact absurd hfield (by decide)
  | default | deduplicate | timings =>
    obtain ⟨b, rfl⟩ := htype
    rfl
  | includes | excludes =>
    obtain ⟨strings, rfl⟩ := htype
    exact congrArg checked (decode_strings strings)
  | options =>
    obtain ⟨entries, rfl⟩ := htype
    cases hsorted with
    | object _ hvalues =>
      obtain ⟨options, hoptions, -⟩ := exists_entries (hentries entries rfl rfl) hvalues
      exact congrArg checked hoptions

end Fields

section Decoded
variable {members : List (String × Json)}

theorem holds_of_fits {field : Field} {x : Json} (h : Fits (field.key, x)) : field.Holds x := by
  have hfield : Field.ofKey? field.key = some field := by cases field <;> rfl
  obtain ⟨_, hkey, hholds⟩ := h
  obtain rfl := Option.some.inj (hfield.symm.trans hkey)
  exact hholds

/-- The members that are fields of the data, as they are decoded. -/
def takenFields (members : List (String × Json)) : Decode.Fields :=
  (members.filter fun m => shape.names.contains m.1).map fun m => (m.1, Reading.ofJson m.2)

theorem fields_ofJson (hsorted : (Json.object members).Sorted) (hfits : ∀ m ∈ members, Fits m) :
    Decode.fields shape (Reading.ofJson (.object members)) = .ok (takenFields members) := by
  cases hsorted with
  | object hkeys hvalues =>
    have hnodup : (([] ++ members.map fun m : String × Json => (m.1, Reading.ofJson m.2)).map Prod.fst).Nodup := by
      rw [List.nil_append, List.map_map]
      exact List.pairwise_map.mpr (hkeys.imp fun h => ne_of_lt h)
    have hcheck : ∀ m ∈ members.map fun m => (m.1, Reading.ofJson m.2),
        shape.names.contains m.1 = true → shape.check m.1 m.2 = .ok () := by
      intro m hm hname
      obtain ⟨⟨k, x⟩, hmem, rfl⟩ := List.mem_map.mp hm
      obtain ⟨field, hfield, hholds⟩ := hfits _ hmem
      obtain rfl := key_of_ofKey? hfield
      exact check_of_holds hholds (hvalues _ hmem) hname
    have hskip : ∀ m ∈ members.map fun m => (m.1, Reading.ofJson m.2), Decode.skip m.2 = .ok () := by
      intro m hm
      obtain ⟨⟨k, x⟩, hmem, rfl⟩ := List.mem_map.mp hm
      rw [Decode.skip, decode_json (hvalues _ hmem)]
      rfl
    have hcollect : Decode.collect shape.names shape.unknown shape.check [] _ = _ :=
      Decode.collect_ignore hnodup hcheck hskip
    rw [Reading.ofJson, Decode.fields, Reading.membersOfJson_eq_map, hcollect, takenFields, List.filter_map]
    rfl

theorem ofJson_congr {v w : Json}
    (h : Decode.fields shape (Reading.ofJson v) = Decode.fields shape (Reading.ofJson w)) : ofJson v = ofJson w := by
  simp only [ofJson, decode, h]

/-- A field is decoded to what its member means. -/
theorem exists_taken {α : Type} {field : Field} {read : Reading → Decode.Result α} {means : Json → α → Prop}
    {absent : α} (hsorted : (Json.object members).Sorted) (hfits : ∀ m ∈ members, Fits m)
    (hfield : shape.names.contains field.key = true)
    (hread : ∀ x, field.Holds x → x.Sorted → ∃ a, read (Reading.ofJson x) = .ok a ∧ means x a) :
    ∃ a, Decode.defaulted (takenFields members) field.key read absent = .ok a ∧
      Takes (.object members) field.key means absent a := by
  have hlookup : (takenFields members).lookup field.key = (members.lookup field.key).map Reading.ofJson := by
    rw [takenFields, lookup_map, lookup_filter fun _ => hfield]
  unfold Decode.defaulted Takes Json.member?
  rw [hlookup]
  cases hmember : members.lookup field.key with
  | none => exact ⟨absent, rfl, .inr ⟨hmember, rfl⟩⟩
  | some x =>
    have hmem := mem_of_lookup hmember
    cases hsorted with
    | object _ hvalues =>
      obtain ⟨a, ha, hmeans⟩ := hread x (holds_of_fits (hfits _ hmem)) (hvalues _ hmem)
      exact ⟨a, ha, .inl ⟨x, hmember, hmeans⟩⟩

theorem exists_bool {x : Json} (h : ∃ b, x = .bool b) :
    ∃ b, Decode.bool (Reading.ofJson x) = .ok b ∧ IsBool x b := by
  obtain ⟨b, rfl⟩ := h
  exact ⟨b, rfl, rfl⟩

theorem exists_strings {x : Json} (h : ∃ patterns : List String, x = .array (patterns.map .string)) :
    ∃ patterns, Decode.list Decode.string (Reading.ofJson x) = .ok patterns ∧ IsStrings x patterns := by
  obtain ⟨patterns, rfl⟩ := h
  exact ⟨patterns, decode_strings patterns, rfl⟩

theorem exists_options {x : Json} (hholds : Field.options.Holds x) (hsorted : x.Sorted) :
    ∃ options, Decode.map decodeOption (Reading.ofJson x) = .ok options ∧ IsEntries x options := by
  obtain ⟨⟨entries, rfl⟩, hentries⟩ := hholds
  cases hsorted with
  | object _ hvalues =>
    obtain ⟨options, hoptions, hforall⟩ := exists_entries (hentries entries rfl rfl) hvalues
    exact ⟨options, hoptions, entries, rfl, hforall⟩

theorem exists_decodedFrom (hsorted : (Json.object members).Sorted) (hfits : ∀ m ∈ members, Fits m) :
    ∃ c, ofJson (.object members) = .ok c ∧ DecodedFrom (.object members) c := by
  have htaken {α : Type} (field : Field) {read : Reading → Decode.Result α} {means : Json → α → Prop} (absent : α)
      (hfield : shape.names.contains field.key = true)
      (hread : ∀ x, field.Holds x → x.Sorted → ∃ a, read (Reading.ofJson x) = .ok a ∧ means x a) :
      ∃ a, Decode.defaulted (takenFields members) field.key read absent = .ok a ∧
        Takes (.object members) field.key means absent a :=
    exists_taken hsorted hfits hfield hread
  obtain ⟨enabledByDefault, hdefault, htdefault⟩ := htaken .default true rfl fun _ h _ => exists_bool h.1
  obtain ⟨options, hoptions, htoptions⟩ := htaken .options [] rfl fun _ h hx => exists_options h hx
  obtain ⟨includes, hincludes, htincludes⟩ := htaken .includes [] rfl fun _ h _ => exists_strings h.1
  obtain ⟨excludes, hexcludes, htexcludes⟩ := htaken .excludes [] rfl fun _ h _ => exists_strings h.1
  obtain ⟨deduplicate, hdeduplicate, htdeduplicate⟩ := htaken .deduplicate false rfl fun _ h _ => exists_bool h.1
  obtain ⟨timings, htimings, httimings⟩ := htaken .timings false rfl fun _ h _ => exists_bool h.1
  refine ⟨⟨enabledByDefault, options, includes, excludes, deduplicate, timings, none⟩, ?_,
    ⟨htdefault, htoptions, htincludes, htexcludes, htdeduplicate, httimings, rfl⟩⟩
  simp only [Field.key] at hdefault hoptions hincludes hexcludes hdeduplicate htimings
  simp only [ofJson, decode, fields_ofJson hsorted hfits, hdefault, hoptions, hincludes, hexcludes, hdeduplicate,
    htimings, bind, Except.bind, pure, Except.pure]

theorem takenFields_without (members : List (String × Json)) :
    takenFields (members.filter fun m => m.1 != "$schema") = takenFields members := by
  have hkept (m : String × Json) :
      (shape.names.contains m.1 && m.1 != "$schema") = shape.names.contains m.1 := by
    by_cases hm : m.1 = "$schema"
    · rw [hm]
      rfl
    · rw [bne_iff_ne.mpr hm, Bool.and_true]
  rw [takenFields, takenFields, List.filter_filter]
  simp only [hkept]

/-- The member that names a schema makes no difference. -/
theorem ofJson_without (hsorted : (Json.object members).Sorted) (hfits : ∀ m ∈ members, Fits m) :
    ofJson (without "$schema" (.object members)) = ofJson (.object members) := by
  apply ofJson_congr
  cases hsorted with
  | object hkeys hvalues =>
    rw [without, fields_ofJson (.object hkeys hvalues) hfits, fields_ofJson, takenFields_without]
    · exact .object (hkeys.filter _) fun m hm => hvalues m (List.mem_of_mem_filter hm)
    · exact fun m hm => hfits m (List.mem_of_mem_filter hm)

/-- The severities among the entries are the names that the linter knows. -/
theorem severity_of_mem {c : Config} (hc : DecodedFrom (.object members) c) (hfits : ∀ m ∈ members, Fits m)
    {key s : String} (h : (key, .severity s) ∈ c.options) : s ∈ entryNames := by
  rcases hc.options with ⟨x, hmember, entries, rfl, hforall⟩ | ⟨-, hnone⟩
  · obtain ⟨e, he, hentry⟩ := exists_of_mem_forall₂ hforall h
    cases hentry with
    | severity =>
      have hholds : Field.options.Holds _ := holds_of_fits (hfits _ (mem_of_lookup hmember))
      exact List.contains_iff_mem.mp (hholds.2 entries rfl rfl _ he)
  · rw [hnone] at h
    exact absurd h List.not_mem_nil

end Decoded

section Misfits
variable {v : Json}

theorem isEntry_eq_false_iff : isEntry v = false ↔ IsNoEntry v := by
  constructor
  · intro h
    cases v with
    | null => exact .null
    | number n => exact .number n
    | array elements => exact .array elements
    | bool b => cases h
    | object members => cases h
    | string s =>
      simp only [isEntry, entryNames, List.contains_eq_mem, List.mem_cons, List.not_mem_nil, or_false,
        decide_eq_false_iff_not, not_or] at h
      exact .string h.1 h.2.1 h.2.2
  · intro h
    cases h with
    | string herror hwarning hoff => simp [isEntry, entryNames, herror, hwarning, hoff]
    | _ => rfl

theorem misfit_of_not_fits {members : List (String × Json)} {m : String × Json} (hm : m ∈ members)
    (h : ¬ Fits m) : Misfit (.object members) := by
  obtain ⟨key, x⟩ := m
  cases hkey : Field.ofKey? key with
  | none => exact .unknownKey hm hkey
  | some field =>
    have hholds : ¬ field.Holds x := fun hholds => h ⟨field, hkey, hholds⟩
    by_cases htype : field.HasType x
    · -- only entries may be wrong in a value of the right type
      simp only [Field.Holds, htype, true_and, not_forall, Bool.not_eq_true] at hholds
      obtain ⟨entries, rfl, rfl, ⟨k, e⟩, he, hentry⟩ := hholds
      obtain rfl := key_of_ofKey? hkey
      exact .noEntry hm he (isEntry_eq_false_iff.mp hentry)
    · exact .wrongType hm hkey htype

/-- What the schema refuses is no object, or has an unknown key, a value of a wrong type or a wrong entry. -/
theorem accepts_eq_false_iff : form.accepts v = false ↔ Misfit v := by
  rw [← Bool.not_eq_true, accepts_form_iff]
  constructor
  · intro h
    cases v with
    | object members =>
      simp only [Json.object.injEq, exists_eq_left', not_forall] at h
      obtain ⟨m, hm, hfits⟩ := h
      exact misfit_of_not_fits hm hfits
    | _ => exact .noObject nofun
  · rintro h ⟨members, rfl, hfits⟩
    cases h with
    | noObject h => exact h members rfl
    | unknownKey hmem hkey =>
      obtain ⟨field, hfield, -⟩ := hfits _ hmem
      cases hkey.symm.trans hfield
    | wrongType hmem hkey htype =>
      obtain ⟨field, hfield, hholds⟩ := hfits _ hmem
      cases hkey.symm.trans hfield
      exact htype hholds.1
    | noEntry hmem hentry hno =>
      have hholds : Field.options.Holds _ := holds_of_fits (hfits _ hmem)
      have hwrong := hholds.2 _ rfl rfl _ hentry
      rw [isEntry_eq_false_iff.mpr hno] at hwrong
      cases hwrong

end Misfits

/-- A value that the schema accepts is decoded, and nothing but the schema refuses one. -/
theorem ofValue_ne_invalid {v : Json} (hv : v.Sorted) (m : String) :
    ofValue v ≠ .error (.config ("Invalid config: " ++ m)) := by
  intro h
  unfold ofValue at h
  split at h
  · have hchars := congrArg String.toList (LintError.config.inj (Except.error.inj h))
    simp at hchars
  · next hform =>
    obtain ⟨members, rfl, hfits⟩ := checkForm_eq_ok_iff.mp hform
    obtain ⟨c, hc, -⟩ := exists_decodedFrom hv hfits
    rw [hc] at h
    cases h

theorem ofText_ne_invalid (text m : String) : ofText text ≠ .error (.config ("Invalid config: " ++ m)) := by
  intro h
  unfold ofText at h
  split at h
  · have hchars := congrArg String.toList (LintError.config.inj (Except.error.inj h))
    simp at hchars
  · next v hparse =>
    refine ofValue_ne_invalid ?_ m h
    cases v with
    | none => exact .object .nil (List.forall_mem_nil _)
    | some v => exact Jsonc.sorted_of_parse hparse

/-- The schema and the decoding agree. A value that the schema accepts is decoded, each field by its member or as
it is without one, and every severity among the entries is one that the linter knows, or `off`, which disables. A
value is refused by the schema exactly if it is no object, or has an unknown key, a value of a wrong type or a
wrong entry, and then it is refused for its form. A text is answered as its value is, so none is refused while it is
decoded. -/
theorem form_agrees_with_decoding {v : Json} (hv : v.Sorted) :
    (form.accepts v = true →
      ∃ c, ofValue v = .ok c ∧ ofJson v = .ok c ∧ ofJson (without "$schema" v) = .ok c ∧ DecodedFrom v c ∧
        ∀ key s, (key, RuleOption.severity s) ∈ c.options →
          ((RuleOption.severity s).isEnabled = false ↔ s = "off") ∧
          ((RuleOption.severity s).severity?.isSome = true ↔ s ≠ "off")) ∧
    (form.accepts v = false ↔ Misfit v) ∧
    (Misfit v → ∃ m, ofValue v = .error (.config m)) ∧
    (∀ text, Jsonc.parse text = .ok (some v) → ofText text = ofValue v) ∧
    (∀ text m, ofText text ≠ .error (.config ("Invalid config: " ++ m))) := by
  refine ⟨?accepted, accepts_eq_false_iff, ?refused, ?text, ofText_ne_invalid⟩
  case accepted =>
    intro haccepts
    have hform := checkForm_eq_ok_iff_accepts.mpr haccepts
    obtain ⟨members, rfl, hfits⟩ := accepts_form_iff.mp haccepts
    obtain ⟨c, hc, hdecoded⟩ := exists_decodedFrom hv hfits
    refine ⟨c, ?_, hc, (ofJson_without hv hfits).trans hc, hdecoded, ?_⟩
    · rw [ofValue, hform, hc]
      rfl
    · intro key s hs
      have hname := severity_of_mem hdecoded hfits hs
      simp only [entryNames, List.mem_cons, List.not_mem_nil, or_false] at hname
      rcases hname with rfl | rfl | rfl <;> decide
  case refused =>
    intro hmisfit
    have hrefused := accepts_eq_false_iff.mpr hmisfit
    unfold ofValue
    split
    · exact ⟨_, rfl⟩
    · next hform =>
      rw [checkForm_eq_ok_iff_accepts.mp hform] at hrefused
      cases hrefused
  case text =>
    intro text hparse
    rw [ofText, hparse]
    rfl

/-- A value that names its schema, turns the rules off and has an entry of each kind. -/
def entriesOfEachKind : Json :=
  .object [("$schema", .string "config.json"), ("default", .bool false),
    ("options", .object [("dated", .object [("days", .bool true)]), ("loud", .string "off"), ("plain", .bool true)])]

theorem form_agrees_with_entriesOfEachKind : entriesOfEachKind.Sorted ∧ form.accepts entriesOfEachKind = true ∧
    ∃ c, ofValue entriesOfEachKind = .ok c ∧ DecodedFrom entriesOfEachKind c := by
  have hdated : (Json.object [("days", .bool true)]).Sorted :=
    .object (by decide) (by simpa using Json.Sorted.bool true)
  have hentries : (Json.object
      [("dated", .object [("days", .bool true)]), ("loud", .string "off"), ("plain", .bool true)]).Sorted :=
    .object (by decide) (by simpa using ⟨hdated, .string _, .bool _⟩)
  have hsorted : entriesOfEachKind.Sorted :=
    .object (by decide) (by simpa using ⟨.string _, .bool _, hentries⟩)
  have haccepts : form.accepts entriesOfEachKind = true := by decide +kernel
  obtain ⟨c, hc, -, -, hdecoded, -⟩ := (form_agrees_with_decoding hsorted).1 haccepts
  exact ⟨hsorted, haccepts, c, hc, hdecoded⟩

end Config

end DocLint
