import DocLint.Json.Reading
import DocLint.Text.Property

/-!
# Decoding values

A value of a type is decoded from what was read. An error says which value stands where another one was
expected; where a text breaks off, it is the fault of the text.
-/

namespace DocLint.Decode

set_option autoImplicit false

/-- The result of decoding, or the text of the error. -/
abbrev Result (α : Type) := Except String α

/-- The digits of a number to a base of sixteen. -/
def hexDigits (n : Nat) : List Char :=
  Nat.toDigits 16 n

/-- A character of a quoted string. -/
def quoteChar (c : Char) : List Char :=
  match c with
  | '"' => ['\\', '"']
  | '\\' => ['\\', '\\']
  | '\n' => ['\\', 'n']
  | '\r' => ['\\', 'r']
  | '\t' => ['\\', 't']
  | '\x00' => ['\\', '0']
  | c => if Text.isInvisible c then "\\u\x7b".toList ++ hexDigits c.toNat ++ ['\x7d'] else [c]

def quoted (s : String) : String :=
  String.ofList ('"' :: s.toList.flatMap quoteChar ++ ['"'])

/-- How a value is called in an error. -/
def describe : Reading → String
  | .null => "null"
  | .bool b => if b then "boolean `true`" else "boolean `false`"
  | .number (.integer n) => "integer `" ++ toString n ++ "`"
  | .number (.double x) => "floating point `" ++ String.ofList x.text ++ "`"
  | .string s => "string " ++ quoted s
  | .array _ _ => "sequence"
  | .object _ _ => "map"
  | .fault f => f.message

/-- The error of a value where another one was expected. -/
def mismatch {α : Type} (expected : String) (r : Reading) : Result α :=
  match r with
  | .fault f => .error f.message
  | r => .error ("invalid type: " ++ describe r ++ ", expected " ++ expected)

/-- The fault that ends an array or object. -/
def ending (fault : Option JsonFault) : Result Unit :=
  match fault with
  | some f => .error f.message
  | none => .ok ()

def bool : Reading → Result Bool
  | .bool b => .ok b
  | r => mismatch "a boolean" r

def string : Reading → Result String
  | .string s => .ok s
  | r => mismatch "a string" r

/-- Decodes an integer without a sign. -/
def unsigned : Reading → Result Nat
  | .number (.integer n) =>
    if n < 0 then .error ("invalid value: integer `" ++ toString n ++ "`, expected usize")
    else .ok n.toNat
  | r => mismatch "usize" r

/-- Decodes a value that may be `null`. -/
def option {α : Type} (decode : Reading → Result α) : Reading → Result (Option α)
  | .null => .ok none
  | r => (decode r).map some

/-- Decodes elements in order. -/
def elements {α : Type} (decode : Reading → Result α) : List Reading → Result (List α)
  | [] => .ok []
  | r :: rest => do
    let v ← decode r
    let vs ← elements decode rest
    return v :: vs

/-- Decodes an array. -/
def list {α : Type} (decode : Reading → Result α) : Reading → Result (List α)
  | .array rs fault => do
    let vs ← elements decode rs
    ending fault
    return vs
  | r => mismatch "a sequence" r

/-- Decodes any value. -/
def json (r : Reading) : Result Json :=
  r.toJson.mapError JsonFault.message

/-- Decodes the values of an object's members in order. -/
def members {α : Type} (decode : Reading → Result α) :
    List (String × Reading) → Result (List (String × α))
  | [] => .ok []
  | (k, r) :: rest => do
    let v ← decode r
    let vs ← members decode rest
    return (k, v) :: vs

/-- Decodes an object with arbitrary keys. -/
def map {α : Type} (decode : Reading → Result α) : Reading → Result (List (String × α))
  | .object ms fault => do
    let vs ← members decode ms
    ending fault
    return vs
  | r => mismatch "a map" r

/-! ## Records

A record is decoded from an object with named fields, or from an array with the fields in order. -/

/-- The values of a record's fields as far as they are present, each under its name. -/
abbrev Fields := List (String × Reading)

/-- What a record does with members that are no fields. -/
inductive Unknown where
  | ignore
  | reject

/-- The names of fields in an error. -/
def fieldNames (names : List String) : String :=
  ", ".intercalate (names.map fun n => "`" ++ n ++ "`")

/-- Passes over a value that is not needed. -/
def skip (r : Reading) : Result Unit :=
  (json r).map fun _ => ()

/-- Collects the fields of a record from the members of an object. `check` decodes a field where it
stands, so that its errors come in the order of the text. -/
def collect (names : List String) (unknown : Unknown) (check : String → Reading → Result Unit)
    (taken : Fields) : List (String × Reading) → Result Fields
  | [] => .ok taken
  | (k, r) :: rest =>
    if names.contains k then
      if (taken.lookup k).isSome then
        .error ("duplicate field `" ++ k ++ "`")
      else do
        check k r
        collect names unknown check (taken ++ [(k, r)]) rest
    else
      match unknown with
      | .ignore => do
        skip r
        collect names unknown check taken rest
      | .reject => .error ("unknown field `" ++ k ++ "`, expected one of " ++ fieldNames names)

/-- Collects the fields of a record from the elements of an array that ends with `fault`, if any. A field
that is not `optional` must be there. -/
def collectInOrder (record : String) (count : Nat) (optional : String → Bool)
    (check : String → Reading → Result Unit) (fault : Option JsonFault) (place : Nat) :
    List String → List Reading → Result (Fields × List Reading)
  | [], rest => .ok ([], rest)
  | n :: names, [] => do
    ending fault
    if optional n then
      collectInOrder record count optional check fault (place + 1) names []
    else
      .error ("invalid length " ++ toString place ++ ", expected struct " ++ record ++ " with " ++
        toString count ++ (if count = 1 then " element" else " elements"))
  | n :: names, r :: rest => do
    check n r
    let (fields, rest) ← collectInOrder record count optional check fault (place + 1) names rest
    return ((n, r) :: fields, rest)

/-- The form of a record. -/
structure Shape where
  record : String
  names : List String
  optional : String → Bool
  unknown : Unknown
  /-- Decodes a field where it stands. -/
  check : String → Reading → Result Unit
  /-- Whether the value is read from a text, which is not known beyond what is decoded. -/
  streamed : Bool

/-- What is asked of a record: everything of its fields. -/
def Shape.interest (shape : Shape) : Interest :=
  .record (shape.names.map fun n => (n, .everything))

/-- The fault of an array behind the last field of a record: there the text is only read to its bracket. -/
def afterFields (fault : Option JsonFault) : Option JsonFault :=
  fault.map fun f =>
    if f = .trailingComma || f = .eofInList then f else .trailingCharacters

/-- Decodes the fields of a record. -/
def fields (shape : Shape) : Reading → Result Fields
  | .object ms fault => do
    let taken ← collect shape.names shape.unknown shape.check [] ms
    ending fault
    return taken
  | .array rs fault => do
    let (taken, rest) ←
      collectInOrder shape.record shape.names.length shape.optional shape.check fault 0 shape.names rs
    if rest.isEmpty then
      ending (if shape.streamed && shape.names.length ≤ rs.length then afterFields fault else fault)
      return taken
    else if shape.streamed then
      .error JsonFault.trailingCharacters.message
    else
      .error ("invalid length " ++ toString rs.length ++ ", expected fewer elements in array")
  | r => mismatch ("struct " ++ shape.record) r

/-- Decodes a field that must be there. -/
def required {α : Type} (fields : Fields) (name : String) (decode : Reading → Result α) :
    Result α :=
  match fields.lookup name with
  | some r => decode r
  | none => .error ("missing field `" ++ name ++ "`")

def defaulted {α : Type} (fields : Fields) (name : String) (decode : Reading → Result α) (default : α) :
    Result α :=
  match fields.lookup name with
  | some r => decode r
  | none => .ok default

/-- The choices that an error lists. -/
def choiceNames (names : List String) : String :=
  let quoted := names.map fun n => "`" ++ n ++ "`"
  if names.length = 2 then " or ".intercalate quoted else "one of " ++ ", ".intercalate quoted

/-- Looks a name up among the choices. -/
def choice {α : Type} (choices : List (String × α)) (s : String) : Result α :=
  match choices.lookup s with
  | some v => .ok v
  | none => .error ("unknown variant `" ++ s ++ "`, expected " ++ choiceNames (choices.map (·.1)))

/-- Decodes one of some names: a string, or the only key of an object whose value is `null`. -/
def oneOf {α : Type} (choices : List (String × α)) : Reading → Result α
  | .string s => choice choices s
  | .object [(k, r)] _ => do
    let v ← choice choices k
    match r with
    | .null => return v
    | r => mismatch "unit" r
  | .object _ _ => .error "invalid value: map, expected map with a single key"
  | r => mismatch "string or map" r

end DocLint.Decode
