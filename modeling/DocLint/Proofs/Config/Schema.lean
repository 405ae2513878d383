import DocLint.Config.Form
import DocLint.Proofs.Except
import DocLint.Proofs.Lookup

/-!
# The schema of configurations

A schema says by its keywords which values it accepts. That of configurations accepts exactly the values whose
form is checked without an error: objects with known members of the right types.
-/

namespace DocLint

set_option autoImplicit false

/-- The types of values that schemas tell apart here. -/
inductive JsonType where
  | boolean
  | string
  | array
  | object
  deriving DecidableEq, Repr

def JsonType.has : JsonType → Json → Bool
  | boolean, .bool _ => true
  | string, .string _ => true
  | array, .array _ => true
  | object, .object _ => true
  | _, _ => false

/-- A schema, by its keywords. One about elements or members has nothing to say of other values. -/
inductive Schema where
  | ofType (t : JsonType)
  | enum (names : List String)
  /-- Each element of an array. -/
  | items (of : Schema)
  /-- Each member of an object: those with a property's key, and the others. -/
  | members (properties : List (String × Schema)) (others : Schema)
  /-- Exactly one of some schemas. -/
  | oneOf (schemas : List Schema)
  | allOf (schemas : List Schema)
  | never

namespace Schema

mutual

/-- Whether a schema accepts a value. -/
def accepts : Schema → Json → Bool
  | .ofType t, v => t.has v
  | .enum names, .string s => names.contains s
  | .enum _, _ => false
  | .items of, .array elements => elements.all fun v => of.accepts v
  | .items _, _ => true
  | .members properties others, .object ms =>
    ms.all fun m => acceptsMember properties m.1 m.2 (others.accepts m.2)
  | .members _ _, _ => true
  | .oneOf schemas, v => countAccepting schemas v == 1
  | .allOf schemas, v => acceptsAll schemas v
  | .never, _ => false

/-- Whether the property with a key accepts a value; without such a property `other` tells. -/
def acceptsMember : List (String × Schema) → String → Json → Bool → Bool
  | [], _, _, other => other
  | (k, s) :: rest, key, v, other => if k == key then s.accepts v else acceptsMember rest key v other

/-- How many of some schemas accept a value. -/
def countAccepting : List Schema → Json → Nat
  | [], _ => 0
  | s :: rest, v => (s.accepts v).toNat + countAccepting rest v

def acceptsAll : List Schema → Json → Bool
  | [], _ => true
  | s :: rest, v => s.accepts v && acceptsAll rest v

end

end Schema

namespace Config
open Schema

def stringsForm : Schema :=
  .allOf [.ofType .array, .items (.ofType .string)]

def entryForm : Schema :=
  .oneOf [.ofType .boolean, .allOf [.ofType .string, .enum ["error", "warning", "off"]], .ofType .object]

def memberForms : List (String × Schema) :=
  [("$schema", .ofType .string),
    ("default", .ofType .boolean),
    ("options", .allOf [.ofType .object, .members [] entryForm]),
    ("include", stringsForm),
    ("exclude", stringsForm),
    ("deduplicate", .ofType .boolean),
    ("timings", .ofType .boolean)]

/-- The schema of configurations. -/
def form : Schema :=
  .allOf [.ofType .object, .members memberForms .never]

def Field.HasType : Field → Json → Prop
  | schema, v => ∃ s, v = .string s
  | default, v | deduplicate, v | timings, v => ∃ b, v = .bool b
  | options, v => ∃ entries, v = .object entries
  | includes, v | excludes, v => ∃ patterns : List String, v = .array (patterns.map .string)

/-- The values that a member may have. -/
def Field.Holds (field : Field) (v : Json) : Prop :=
  field.HasType v ∧ ∀ entries, field = .options → v = .object entries → ∀ e ∈ entries, isEntry e.2 = true

/-- A member that a configuration may have. -/
def Fits (m : String × Json) : Prop :=
  ∃ field, Field.ofKey? m.1 = some field ∧ field.Holds m.2

theorem exists_strings_iff {elements : List Json} :
    (∃ ss : List String, elements = ss.map .string) ↔ ∀ v ∈ elements, ∃ s, v = .string s := by
  induction elements with
  | nil => simp
  | cons v rest ih =>
    rw [List.forall_mem_cons, ← ih]
    constructor
    · rintro ⟨ss, h⟩
      cases ss with
      | nil => cases h
      | cons s more =>
        obtain ⟨rfl, rfl⟩ := List.cons.inj h
        exact ⟨⟨s, rfl⟩, more, rfl⟩
    · rintro ⟨⟨s, rfl⟩, more, rfl⟩
      exact ⟨s :: more, rfl⟩

section Check
variable {v : Json} (path : List String)

theorem checkBool_eq_ok_iff : checkBool path v = .ok () ↔ ∃ b, v = .bool b := by
  cases v <;> simp [checkBool, wrongType]

theorem checkString_eq_ok_iff : checkString path v = .ok () ↔ ∃ s, v = .string s := by
  cases v <;> simp [checkString, wrongType]

theorem checkStringsFrom_eq_ok_iff (index : Nat) {elements : List Json} :
    checkStringsFrom path index elements = .ok () ↔ ∀ v ∈ elements, ∃ s, v = .string s := by
  induction elements generalizing index with
  | nil => simp [checkStringsFrom]
  | cons v rest ih =>
    rw [checkStringsFrom, bind_eq_ok_iff, List.forall_mem_cons, ← ih (index + 1),
      ← checkString_eq_ok_iff (path ++ [toString index])]
    exact ⟨fun ⟨_, hv, hrest⟩ => ⟨hv, hrest⟩, fun ⟨hv, hrest⟩ => ⟨(), hv, hrest⟩⟩

theorem checkStrings_eq_ok_iff :
    checkStrings path v = .ok () ↔ ∃ ss : List String, v = .array (ss.map .string) := by
  cases v with
  | array elements => simp only [checkStrings, checkStringsFrom_eq_ok_iff, Json.array.injEq, exists_strings_iff]
  | _ => simp [checkStrings, wrongType]

theorem checkEntries_eq_ok_iff {entries : List (String × Json)} :
    checkEntries path entries = .ok () ↔ ∀ e ∈ entries, isEntry e.2 = true := by
  induction entries with
  | nil => simp [checkEntries]
  | cons e rest ih =>
    obtain ⟨k, x⟩ := e
    rw [checkEntries, List.forall_mem_cons, ← ih]
    cases hx : isEntry x with
    | true => simp
    | false => simp [bind, Except.bind, throw, throwThe, MonadExceptOf.throw]

theorem checkOptions_eq_ok_iff :
    checkOptions path v = .ok () ↔ ∃ entries, v = .object entries ∧ ∀ e ∈ entries, isEntry e.2 = true := by
  cases v with
  | object entries => simp [checkOptions, checkEntries_eq_ok_iff]
  | _ => simp [checkOptions, wrongType]

theorem Field.check_eq_ok_iff (field : Field) : field.check path v = .ok () ↔ field.Holds v := by
  cases field with
  | schema => simp [check, checkString_eq_ok_iff, Holds, HasType]
  | default | deduplicate | timings => simp [check, checkBool_eq_ok_iff, Holds, HasType]
  | includes | excludes => simp [check, checkStrings_eq_ok_iff, Holds, HasType]
  | options =>
    rw [check, checkOptions_eq_ok_iff, Holds]
    constructor
    · rintro ⟨entries, rfl, hentries⟩
      refine ⟨⟨entries, rfl⟩, ?_⟩
      rintro _ - heq
      cases heq
      exact hentries
    · rintro ⟨⟨entries, rfl⟩, hentries⟩
      exact ⟨entries, rfl, hentries entries rfl rfl⟩

theorem checkMembers_eq_ok_iff {members : List (String × Json)} :
    checkMembers members = .ok () ↔ ∀ m ∈ members, Fits m := by
  induction members with
  | nil => simp [checkMembers]
  | cons m rest ih =>
    obtain ⟨k, x⟩ := m
    rw [checkMembers, List.forall_mem_cons, ← ih, Fits]
    cases hk : Field.ofKey? k with
    | none => simp [bind, Except.bind, throw, throwThe, MonadExceptOf.throw]
    | some field =>
      simp only [bind_eq_ok_iff, Option.some.injEq, exists_eq_left', ← Field.check_eq_ok_iff [k]]
      exact ⟨fun ⟨_, hx, hrest⟩ => ⟨hx, hrest⟩, fun ⟨hx, hrest⟩ => ⟨(), hx, hrest⟩⟩

/-- The form of a value is right if it is an object with nothing but members that a configuration may have. -/
theorem checkForm_eq_ok_iff : checkForm v = .ok () ↔ ∃ members, v = .object members ∧ ∀ m ∈ members, Fits m := by
  cases v with
  | object members => simp [checkForm, checkMembers_eq_ok_iff]
  | _ => simp [checkForm, wrongType]

end Check

section Accepts
variable {v : Json}

theorem acceptsMember_eq (properties : List (String × Schema)) (key : String) (v : Json) (other : Bool) :
    acceptsMember properties key v other = ((properties.lookup key).map fun s => s.accepts v).getD other := by
  induction properties with
  | nil => rfl
  | cons p rest ih =>
    obtain ⟨k, s⟩ := p
    rw [acceptsMember, List.lookup_cons, BEq.comm]
    cases key == k with
    | true => rfl
    | false => exact ih

theorem accepts_string_iff : (ofType .string).accepts v = true ↔ ∃ s, v = .string s := by
  cases v <;> simp [accepts, JsonType.has]

theorem accepts_boolean_iff : (ofType .boolean).accepts v = true ↔ ∃ b, v = .bool b := by
  cases v <;> simp [accepts, JsonType.has]

theorem accepts_stringsForm_iff :
    stringsForm.accepts v = true ↔ ∃ ss : List String, v = .array (ss.map .string) := by
  cases v with
  | array elements =>
    simp only [stringsForm, accepts, acceptsAll, JsonType.has, Bool.true_and, Bool.and_true, Json.array.injEq,
      exists_strings_iff, List.all_eq_true, ← accepts_string_iff]
  | _ => simp [stringsForm, accepts, acceptsAll, JsonType.has]

/-- At most one of the schemas of an entry accepts a value, and one of them does if it may be an entry. -/
theorem accepts_entryForm : entryForm.accepts v = isEntry v := by
  cases v with
  | string s =>
    simp only [entryForm, accepts, acceptsAll, countAccepting, JsonType.has, isEntry, entryNames]
    generalize hnames : ["error", "warning", "off"].contains s = known
    cases known <;> rfl
  | _ => rfl

def Field.form : Field → Schema
  | schema => .ofType .string
  | default | deduplicate | timings => .ofType .boolean
  | options => .allOf [.ofType .object, .members [] entryForm]
  | includes | excludes => stringsForm

theorem Field.accepts_form_iff (field : Field) : field.form.accepts v = true ↔ field.Holds v := by
  cases field with
  | schema => simp [form, accepts_string_iff, Holds, HasType]
  | default | deduplicate | timings => simp [form, accepts_boolean_iff, Holds, HasType]
  | includes | excludes => simp [form, accepts_stringsForm_iff, Holds, HasType]
  | options =>
    rw [← check_eq_ok_iff [], check, checkOptions_eq_ok_iff, form]
    cases v with
    | object entries => simp [accepts, acceptsAll, acceptsMember, JsonType.has, accepts_entryForm]
    | _ => simp [accepts, acceptsAll, JsonType.has]

theorem lookup_memberForms (key : String) : memberForms.lookup key = (Field.ofKey? key).map Field.form := by
  rw [Field.ofKey?, ← lookup_map]
  rfl

theorem accepts_form_iff : form.accepts v = true ↔ ∃ members, v = .object members ∧ ∀ m ∈ members, Fits m := by
  cases v with
  | object members =>
    have hmember (m : String × Json) : acceptsMember memberForms m.1 m.2 false = true ↔ Fits m := by
      rw [acceptsMember_eq, lookup_memberForms, Fits]
      cases Field.ofKey? m.1 <;> simp [Field.accepts_form_iff]
    simp only [form, accepts, acceptsAll, JsonType.has, Bool.true_and, Bool.and_true, List.all_eq_true,
      Json.object.injEq, exists_eq_left']
    exact forall₂_congr fun m _ => hmember m
  | _ => simp [form, accepts, acceptsAll, JsonType.has]

/-- The check finds no error exactly where the schema accepts. -/
theorem checkForm_eq_ok_iff_accepts : checkForm v = .ok () ↔ form.accepts v = true := by
  rw [checkForm_eq_ok_iff, accepts_form_iff]

end Accepts

end Config

end DocLint
