import DocLint.Decimal.Shortest
import DocLint.Text.Utf8

/-!
# JSON values

Objects are kept sorted by their keys, so two objects with the same members are equal.
-/

namespace DocLint

set_option autoImplicit false

/-- A number: an integer of 64 bits, with or without a sign, or a double. -/
inductive JsonNumber where
  | integer (n : Int)
  | double (x : Decimal.Binary64)
  deriving DecidableEq, Repr

/-- A JSON value. -/
inductive Json where
  | null
  | bool (b : Bool)
  | number (n : JsonNumber)
  | string (s : String)
  | array (elements : List Json)
  | object (members : List (String × Json))
  deriving Inhabited, Repr

namespace Json

/-- A natural number as a value. -/
def ofNat (n : Nat) : Json :=
  .number (.integer n)

/-- An optional value; `null` when it is absent. -/
def ofOption : Option Json → Json
  | some v => v
  | none => .null

/-- Sets a member of an object that is sorted by keys. -/
def insertMember (key : String) (value : Json) : List (String × Json) → List (String × Json)
  | [] => [(key, value)]
  | (k, v) :: rest =>
    if k == key then (key, value) :: rest
    else if Text.bytesLt key k then (key, value) :: (k, v) :: rest
    else (k, v) :: insertMember key value rest

/-- An object with some members; of several with one key the last counts. -/
def ofMembers (members : List (String × Json)) : Json :=
  .object (members.foldl (fun sorted m => insertMember m.1 m.2 sorted) [])

/-- The member of an object with a key. -/
def member? (v : Json) (key : String) : Option Json :=
  match v with
  | .object members => members.lookup key
  | _ => none

end Json

def JsonNumber.text : JsonNumber → List Char
  | .integer n => (if n < 0 then ['-'] else []) ++ Decimal.digitsOf n.natAbs
  | .double x => x.text

end DocLint
