import DocLint.Json.Printer

/-!
# The form of configurations

A configuration in a file has to be an object with known members of the right types. The entry of a rule
is a boolean, a severity or `off`, or an object. Members are checked in the order of their keys, and the
first error counts.
-/

namespace DocLint.Config

set_option autoImplicit false

/-- What is wrong with the form of a value, and where. -/
structure FormError where
  message : String
  /-- The keys and indices that lead to the place. -/
  path : List String
  deriving DecidableEq, Repr

/-- A key in a pointer. -/
def escapeKey (key : String) : List Char :=
  key.toList.flatMap fun c =>
    if c == '~' then ['~', '0'] else if c == '/' then ['~', '1'] else [c]

/-- The pointer to the place of an error. -/
def FormError.pointer (e : FormError) : String :=
  String.ofList (e.path.flatMap fun key => '/' :: escapeKey key)

/-- The error of a value that does not have a type. -/
def wrongType (path : List String) (v : Json) (type : String) : Except FormError Unit :=
  .error ⟨v.compact ++ " is not of type \"" ++ type ++ "\"", path⟩

/-- Checks that a value is a boolean. -/
def checkBool (path : List String) : Json → Except FormError Unit
  | .bool _ => .ok ()
  | v => wrongType path v "boolean"

/-- Checks that a value is a string. -/
def checkString (path : List String) : Json → Except FormError Unit
  | .string _ => .ok ()
  | v => wrongType path v "string"

/-- Checks that elements are strings, from an index on. -/
def checkStringsFrom (path : List String) (index : Nat) : List Json → Except FormError Unit
  | [] => .ok ()
  | v :: rest => do
    checkString (path ++ [toString index]) v
    checkStringsFrom path (index + 1) rest

/-- Checks that a value is an array of strings. -/
def checkStrings (path : List String) : Json → Except FormError Unit
  | .array elements => checkStringsFrom path 0 elements
  | v => wrongType path v "array"

/-- The strings that an entry may be. -/
def entryNames : List String :=
  ["error", "warning", "off"]

/-- Whether a value may be the entry of a rule. -/
def isEntry : Json → Bool
  | .bool _ => true
  | .string s => entryNames.contains s
  | .object _ => true
  | _ => false

/-- Checks the entries of rules. -/
def checkEntries (path : List String) : List (String × Json) → Except FormError Unit
  | [] => .ok ()
  | (k, v) :: rest => do
    if !isEntry v then
      throw ⟨v.compact ++ " is not valid under any of the schemas listed in the 'oneOf' keyword",
        path ++ [k]⟩
    checkEntries path rest

/-- Checks that a value is an object with entries of rules. -/
def checkOptions (path : List String) : Json → Except FormError Unit
  | .object members => checkEntries path members
  | v => wrongType path v "object"

/-- The members of a configuration. -/
inductive Field where
  | schema
  | default
  | options
  | includes
  | excludes
  | deduplicate
  | timings
  deriving DecidableEq, Repr

/-- The member with a key. -/
def Field.ofKey? (key : String) : Option Field :=
  [("$schema", schema), ("default", default), ("options", options), ("include", includes),
    ("exclude", excludes), ("deduplicate", deduplicate), ("timings", timings)].lookup key

/-- Checks the value of a member. -/
def Field.check (field : Field) (path : List String) (v : Json) : Except FormError Unit :=
  match field with
  | schema => checkString path v
  | default => checkBool path v
  | options => checkOptions path v
  | includes => checkStrings path v
  | excludes => checkStrings path v
  | deduplicate => checkBool path v
  | timings => checkBool path v

def checkMembers : List (String × Json) → Except FormError Unit
  | [] => .ok ()
  | (k, v) :: rest => do
    match Field.ofKey? k with
    | some field => field.check [k] v
    | none => throw ⟨"Additional properties are not allowed ('" ++ k ++ "' was unexpected)", []⟩
    checkMembers rest

def checkForm : Json → Except FormError Unit
  | .object members => checkMembers members
  | v => wrongType [] v "object"

end DocLint.Config
