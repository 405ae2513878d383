import DocLint.Json.Basic
import DocLint.Json.Skip

/-!
# Reading JSON texts

A text is read as far as it can be: where it breaks off, the value that was being read holds the fault.
What decodes a value from a text looks at its parts in order, so it meets a wrong type before a fault
behind it, and a fault before a wrong type behind that.
-/

namespace DocLint

set_option autoImplicit false

/-- A value as far as its text could be read. -/
inductive Reading where
  | null
  | bool (b : Bool)
  | number (n : JsonNumber)
  | string (s : String)
  /-- An array, and the fault that ends it. -/
  | array (elements : List Reading) (fault : Option JsonFault)
  /-- The members of an object in the order of the text, and the fault that ends it. -/
  | object (members : List (String × Reading)) (fault : Option JsonFault)
  | fault (f : JsonFault)

/-- What is asked of a value. What is not asked for is passed over. -/
inductive Interest where
  | nothing
  | everything
  /-- The same of each element. -/
  | elements (of : Interest)
  /-- Some members of an object, or the elements of an array in this order. -/
  | record (fields : List (String × Interest))

namespace Interest

/-- What is asked of the next element. -/
def element : Interest → Interest
  | elements of => of
  | record ((_, want) :: _) => want
  | _ => everything

/-- What is asked of the elements after the next one. -/
def afterElement : Interest → Interest
  | record fields => record fields.tail
  | want => want

/-- What is asked of the member with a key. -/
def member (key : String) : Interest → Interest
  | record fields => (fields.lookup key).getD nothing
  | _ => everything

end Interest

namespace Reading

open JsonInput

/-- Reads an escape of a code unit after its `u`; two surrogates make one character. -/
def unicodeEscape (cs : JsonInput) : Except JsonFault (Char × JsonInput) := do
  let (n, rest) ← hexFour cs
  if 0xDC00 ≤ n && n ≤ 0xDFFF then
    throw .loneSurrogate
  else if 0xD800 ≤ n && n ≤ 0xDBFF then
    match rest with
    | some '\\' :: some 'u' :: rest =>
      let (m, rest) ← hexFour rest
      if m < 0xDC00 || 0xDFFF < m then
        throw .loneSurrogate
      else
        return (Char.ofNat (0x10000 + (n - 0xD800) * 0x400 + (m - 0xDC00)), rest)
    | [] => throw .eofInString
    | [some '\\'] => throw .eofInString
    | _ => throw .unfinishedEscape
  else
    return (Char.ofNat n, rest)

/-- Reads a string after its opening quote, `taken` being its characters so far, newest first. Every
step takes a character, so their number bounds the steps. -/
def stringRest : Nat → List (Option Char) → JsonInput → Except JsonFault (String × JsonInput)
  | 0, _, _ => .error .eofInString
  | _, _, [] => .error .eofInString
  | fuel + 1, taken, c :: rest =>
    match c with
    | none => stringRest fuel (none :: taken) rest
    | some '"' =>
      match taken.reverse.mapM id with
      | some cs => .ok (String.ofList cs, rest)
      | none => .error .invalidCodePoint
    | some '\\' =>
      match rest with
      | [] => .error .eofInString
      | some 'u' :: rest => do
        let (c, rest) ← unicodeEscape rest
        stringRest fuel (some c :: taken) rest
      | e :: rest =>
        match e.bind simpleEscape? with
        | some c => stringRest fuel (some c :: taken) rest
        | none => .error .invalidEscape
    | some c =>
      if c.toNat < 32 then .error .controlCharacter else stringRest fuel (some c :: taken) rest

/-- Reads a string after its opening quote. -/
def readString (cs : JsonInput) : Except JsonFault (String × JsonInput) :=
  stringRest (cs.length + 1) [] cs

/-! ## Numbers -/

/-- The greatest integer without a sign. -/
def maxUnsigned : Nat := Nat.pow 2 64 - 1

/-- Reads digits as long as the number fits 64 bits: the number, the count of digits read, and the
rest. -/
def takeDigits (n count : Nat) : JsonInput → Nat × Nat × JsonInput
  | [] => (n, count, [])
  | c :: rest =>
    match digit? c with
    | some d => if maxUnsigned < 10 * n + d then (n, count, c :: rest)
                else takeDigits (10 * n + d) (count + 1) rest
    | none => (n, count, c :: rest)

/-- The greatest power of ten that is a factor of its own. -/
def greatestPower : Nat := 308

/-- The double of digits and a power of ten: the digits are rounded to a double, and then so is the
product or quotient. -/
def scaleDouble (negative : Bool) (digits : Nat) (e : Int) : Except JsonFault Decimal.Binary64 :=
  match Decimal.Binary64.ofRatio negative digits 1 with
  | none => .error .numberOutOfRange
  | some x =>
    if 0 ≤ e then
      if digits = 0 then .ok x
      else if greatestPower < e.toNat then .error .numberOutOfRange
      else match x.scaleUp e.toNat with
        | some y => .ok y
        | none => .error .numberOutOfRange
    else
      .ok (down (e.natAbs / greatestPower) x e.natAbs)
where
  /-- Divides by a power of ten, in steps if it is too large for one. -/
  down : Nat → Decimal.Binary64 → Nat → Decimal.Binary64
    | 0, x, n => (x.scaleDown n).getD x
    | fuel + 1, x, n =>
      if n ≤ greatestPower then (x.scaleDown n).getD x
      else if x.mantissa = 0 then x
      else down fuel ((x.scaleDown greatestPower).getD x) (n - greatestPower)

/-- The greatest exponent that is read. -/
def maxExponent : Nat := Nat.pow 2 31 - 1

/-- Reads an exponent after its letter. -/
def readExponent (negative : Bool) (digits : Nat) (e : Int) (cs : JsonInput) :
    Except JsonFault (JsonNumber × JsonInput) :=
  let (below, cs) := match cs with
    | some '+' :: rest => (false, rest)
    | some '-' :: rest => (true, rest)
    | _ => (false, cs)
  match cs with
  | [] => .error .eofInValue
  | c :: _ =>
    if (digit? c).isNone then
      .error .invalidNumber
    else
      let (_, rest) := countDigits 0 cs
      let taken := cs.take (cs.length - rest.length)
      let n := taken.foldl (fun n c => 10 * n + (digit? c).getD 0) 0
      if maxExponent < n then
        if digits ≠ 0 ∧ !below then .error .numberOutOfRange
        else .ok (.double ⟨negative, 0, Decimal.Binary64.minExponent⟩, rest)
      else do
        let x ← scaleDouble negative digits (if below then e - n else e + n)
        return (.double x, rest)

/-- Reads what follows the digits of a number that is no integer. -/
def readScale (negative : Bool) (digits : Nat) (e : Int) (cs : JsonInput) :
    Except JsonFault (JsonNumber × JsonInput) :=
  match cs with
  | some 'e' :: rest | some 'E' :: rest => readExponent negative digits e rest
  | _ => do
    let x ← scaleDouble negative digits e
    return (.double x, cs)

/-- Reads the places after a decimal point. Digits that do not fit are ignored. -/
def readPlaces (negative : Bool) (digits : Nat) (e : Int) (cs : JsonInput) :
    Except JsonFault (JsonNumber × JsonInput) :=
  let (n, count, rest) := takeDigits digits 0 cs
  let (more, rest) := countDigits 0 rest
  if count = 0 ∧ more = 0 then
    match rest with
    | [] => .error .eofInValue
    | _ => .error .invalidNumber
  else
    readScale negative n (e - count) rest

/-- The number of an integer's digits. An integer below the least one is a double, and so is zero with
a sign. -/
def integerNumber (negative : Bool) (n : Nat) : JsonNumber :=
  if !negative then .integer n
  else if 0 < n ∧ n ≤ Nat.pow 2 63 then .integer (-n)
  else match Decimal.Binary64.ofRatio true n 1 with
    | some x => .double x
    | none => .integer (-n)

/-- Reads a number after its sign. -/
def readMagnitude (negative : Bool) (cs : JsonInput) : Except JsonFault (JsonNumber × JsonInput) :=
  match cs with
  | [] => .error .eofInValue
  | c :: more =>
    if (digit? c).isNone then
      .error .invalidNumber
    else if c == some '0' && ((more.head?).bind digit?).isSome then
      .error .invalidNumber
    else
      let (n, _, rest) := takeDigits 0 0 cs
      let (extra, rest) := countDigits 0 rest
      match rest with
      | some '.' :: rest => readPlaces negative n extra rest
      | some 'e' :: rest | some 'E' :: rest => readExponent negative n extra rest
      | _ =>
        if extra = 0 then
          .ok (integerNumber negative n, rest)
        else do
          let x ← scaleDouble negative n extra
          return (.double x, rest)

/-! ## Values -/

/-- How deep values may be nested. -/
def depthLimit : Nat := 127

/-- Reads a word after its first letter. -/
def readWord {α : Type} (value : α) (word : List Char) (cs : JsonInput) :
    Except JsonFault (α × JsonInput) :=
  (passWord word cs).map fun rest => (value, rest)

/-- A value with the rest of its text, or the fault. -/
def ofExcept {α : Type} (make : α → Reading) : Except JsonFault (α × JsonInput) → Reading × Option JsonInput
  | .ok (v, rest) => (make v, some rest)
  | .error f => (.fault f, none)

mutual

/-- Reads a value, and what is left after it unless it has a fault. Each step takes a character, so
their number bounds the steps; `depth` values may still be nested. What is not asked for reads as `null`. -/
def readValue : Nat → Nat → Interest → JsonInput → Reading × Option JsonInput
  | 0, _, _, _ => (.fault .eofInValue, none)
  | _, _, .nothing, cs => ofExcept (fun _ => .null) ((skipValue cs).map fun rest => ((), rest))
  | fuel + 1, depth, want, cs =>
    match skipSpace cs with
    | [] => (.fault .eofInValue, none)
    | some 'n' :: rest => ofExcept (fun _ => .null) (readWord () ['u', 'l', 'l'] rest)
    | some 't' :: rest => ofExcept .bool (readWord true ['r', 'u', 'e'] rest)
    | some 'f' :: rest => ofExcept .bool (readWord false ['a', 'l', 's', 'e'] rest)
    | some '"' :: rest => ofExcept .string (readString rest)
    | some '-' :: rest => ofExcept .number (readMagnitude true rest)
    | some '[' :: rest =>
      match depth with
      | 0 => (.fault .tooDeep, none)
      | depth + 1 =>
        let (elements, broken, rest) := readElements fuel depth want true rest
        (.array elements broken, rest)
    | some '\x7b' :: rest =>
      match depth with
      | 0 => (.fault .tooDeep, none)
      | depth + 1 =>
        let (members, broken, rest) := readMembers fuel depth want true rest
        (.object members broken, rest)
    | c :: rest =>
      if (digit? c).isSome then ofExcept .number (readMagnitude false (c :: rest))
      else (.fault .expectedValue, none)

/-- Reads the elements of an array up to its bracket. -/
def readElements :
    Nat → Nat → Interest → Bool → JsonInput → List Reading × Option JsonFault × Option JsonInput
  | 0, _, _, _, _ => ([], some .eofInList, none)
  | fuel + 1, depth, want, first, cs =>
    match skipSpace cs with
    | [] => ([], some .eofInList, none)
    | some ']' :: rest => ([], none, some rest)
    | c :: rest =>
      let start : Except JsonFault JsonInput :=
        if first then .ok (c :: rest)
        else if c == some ',' then
          match skipSpace rest with
          | [] => .error .eofInValue
          | some ']' :: _ => .error .trailingComma
          | rest => .ok rest
        else .error .expectedListEnd
      match start with
      | .error f => ([], some f, none)
      | .ok cs =>
        match readValue fuel depth want.element cs with
        | (v, none) => ([v], none, none)
        | (v, some rest) =>
          let (more, broken, rest) := readElements fuel depth want.afterElement false rest
          (v :: more, broken, rest)

/-- Reads the members of an object up to its brace. -/
def readMembers :
    Nat → Nat → Interest → Bool → JsonInput → List (String × Reading) × Option JsonFault × Option JsonInput
  | 0, _, _, _, _ => ([], some .eofInObject, none)
  | fuel + 1, depth, want, first, cs =>
    match skipSpace cs with
    | [] => ([], some .eofInObject, none)
    | some '\x7d' :: rest => ([], none, some rest)
    | c :: rest =>
      let start : Except JsonFault JsonInput :=
        if first then
          if c == some '"' then .ok rest else .error .keyNotString
        else if c == some ',' then
          match skipSpace rest with
          | [] => .error .eofInValue
          | some '"' :: rest => .ok rest
          | some '\x7d' :: _ => .error .trailingComma
          | _ => .error .keyNotString
        else .error .expectedObjectEnd
      match start.bind readString with
      | .error f => ([], some f, none)
      | .ok (key, rest) =>
        match skipSpace rest with
        | [] => ([], some .eofInObject, none)
        | some ':' :: rest =>
          match readValue fuel depth (want.member key) rest with
          | (v, none) => ([(key, v)], none, none)
          | (v, some rest) =>
            let (more, broken, rest) := readMembers fuel depth want false rest
            ((key, v) :: more, broken, rest)
        | _ => ([], some .expectedColon, none)

end

/-- Reads what is asked for of a whole text: its value, and the fault of what follows it. -/
def ofInput (want : Interest) (cs : JsonInput) : Reading × Option JsonFault :=
  match readValue (2 * cs.length + 2) depthLimit want cs with
  | (v, none) => (v, none)
  | (v, some rest) => (v, if (skipSpace rest).isEmpty then none else some .trailingCharacters)

mutual

/-- A value that was read, or the first fault in it. -/
def toJson : Reading → Except JsonFault Json
  | .null => .ok .null
  | .bool b => .ok (.bool b)
  | .number n => .ok (.number n)
  | .string s => .ok (.string s)
  | .array elements broken => do
    let vs ← elementsToJson elements
    match broken with
    | some f => throw f
    | none => return .array vs
  | .object members broken => do
    let ms ← membersToJson members
    match broken with
    | some f => throw f
    | none => return Json.ofMembers ms
  | .fault f => .error f

/-- The elements of an array that was read. -/
def elementsToJson : List Reading → Except JsonFault (List Json)
  | [] => .ok []
  | r :: rest => do
    let v ← toJson r
    let vs ← elementsToJson rest
    return v :: vs

/-- The members of an object that was read. -/
def membersToJson : List (String × Reading) → Except JsonFault (List (String × Json))
  | [] => .ok []
  | (k, r) :: rest => do
    let v ← toJson r
    let ms ← membersToJson rest
    return (k, v) :: ms

end

mutual

/-- A value as if it had been read. -/
def ofJson : Json → Reading
  | .null => .null
  | .bool b => .bool b
  | .number n => .number n
  | .string s => .string s
  | .array elements => .array (elementsOfJson elements) none
  | .object members => .object (membersOfJson members) none

/-- The elements of an array as if they had been read. -/
def elementsOfJson : List Json → List Reading
  | [] => []
  | v :: rest => ofJson v :: elementsOfJson rest

/-- The members of an object as if they had been read. -/
def membersOfJson : List (String × Json) → List (String × Reading)
  | [] => []
  | (k, v) :: rest => (k, ofJson v) :: membersOfJson rest

end

end Reading

/-- Parses a JSON text. -/
def Json.parse (s : String) : Except JsonFault Json := do
  let (r, after) := Reading.ofInput .everything (s.toList.map some)
  let v ← r.toJson
  match after with
  | some f => throw f
  | none => return v

end DocLint
