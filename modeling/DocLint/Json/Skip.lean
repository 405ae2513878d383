import DocLint.Json.Input

/-!
# Passing over JSON values

A value that nobody asks for is passed over. Its text has to have the form of a value, but it is not read:
it may be nested as deep as it likes, its numbers may be too large and its strings may encode nothing.
-/

namespace DocLint.JsonInput

set_option autoImplicit false

/-- Passes over a string after its opening quote. Every step takes a character, so their number bounds the
steps. -/
def skipStringRest : Nat → JsonInput → Except JsonFault JsonInput
  | 0, _ => .error .eofInString
  | _, [] => .error .eofInString
  | fuel + 1, c :: rest =>
    match c with
    | some '"' => .ok rest
    | some '\\' =>
      match rest with
      | [] => .error .eofInString
      | some 'u' :: rest => (hexFour rest).bind fun e => skipStringRest fuel e.2
      | e :: rest =>
        if (e.bind simpleEscape?).isSome then skipStringRest fuel rest else .error .invalidEscape
    | some c => if c.toNat < 32 then .error .controlCharacter else skipStringRest fuel rest
    | none => skipStringRest fuel rest

/-- Passes over a string after its opening quote. -/
def skipString (cs : JsonInput) : Except JsonFault JsonInput :=
  skipStringRest (cs.length + 1) cs

/-- Passes over digits, of which there has to be one. -/
def skipDigits (cs : JsonInput) : Except JsonFault JsonInput :=
  match countDigits 0 cs with
  | (0, _) => .error .invalidNumber
  | (_, rest) => .ok rest

/-- Passes over an exponent, if there is one. -/
def skipExponent : JsonInput → Except JsonFault JsonInput
  | some 'e' :: rest | some 'E' :: rest =>
    match rest with
    | some '+' :: rest | some '-' :: rest => skipDigits rest
    | rest => skipDigits rest
  | cs => .ok cs

/-- Passes over a number after its sign. -/
def skipMagnitude (cs : JsonInput) : Except JsonFault JsonInput := do
  let (_, whole) := countDigits 0 cs
  let rest ← match cs with
    | some '0' :: rest => if whole.length < rest.length then throw .invalidNumber else pure rest
    | _ => skipDigits cs
  match rest with
  | some '.' :: rest => skipExponent (← skipDigits rest)
  | rest => skipExponent rest

/-- Passes over a value that holds no other values. -/
def skipScalar : JsonInput → Except JsonFault JsonInput
  | [] => .error .eofInValue
  | some 'n' :: rest => passWord ['u', 'l', 'l'] rest
  | some 't' :: rest => passWord ['r', 'u', 'e'] rest
  | some 'f' :: rest => passWord ['a', 'l', 's', 'e'] rest
  | some '"' :: rest => skipString rest
  | some '-' :: rest => skipMagnitude rest
  | c :: rest => if (digit? c).isSome then skipMagnitude (c :: rest) else .error .expectedValue

/-- What a value lies in. -/
inductive Enclosure where
  | list
  | object
  deriving DecidableEq, Repr

namespace Enclosure

/-- The bracket that ends it. -/
def close : Enclosure → Char
  | list => ']'
  | object => '\x7d'

/-- The fault of a text that ends in it. -/
def eof : Enclosure → JsonFault
  | list => .eofInList
  | object => .eofInObject

/-- The fault of something else than a comma or the bracket. -/
def expectedEnd : Enclosure → JsonFault
  | list => .expectedListEnd
  | object => .expectedObjectEnd

/-- Passes over what stands before a value: in an object a key and a colon. -/
def skipKey (e : Enclosure) (cs : JsonInput) : Except JsonFault JsonInput :=
  match e with
  | list => .ok cs
  | object =>
    match skipSpace cs with
    | [] => .error .eofInObject
    | some '"' :: rest => do
      match skipSpace (← skipString rest) with
      | [] => throw .eofInObject
      | some ':' :: rest => return rest
      | _ => throw .expectedColon
    | _ => .error .keyNotString

end Enclosure

mutual

/-- Passes over a value and the ends of what it lies in, innermost first. Every two steps take a character,
so twice their number bounds the steps. -/
def skipWithin : Nat → List Enclosure → JsonInput → Except JsonFault JsonInput
  | 0, _, _ => .error .eofInValue
  | fuel + 1, within, cs =>
    match skipSpace cs with
    | some '[' :: rest => skipOn fuel false (.list :: within) rest
    | some '\x7b' :: rest => skipOn fuel false (.object :: within) rest
    | cs => (skipScalar cs).bind (skipOn fuel true within)

/-- Goes on after a value, or else after an opening bracket. -/
def skipOn : Nat → Bool → List Enclosure → JsonInput → Except JsonFault JsonInput
  | _, _, [], cs => .ok cs
  | 0, _, _ :: _, _ => .error .eofInValue
  | fuel + 1, afterValue, e :: within, cs =>
    match skipSpace cs with
    | [] => .error e.eof
    | c :: rest =>
      if c == some e.close then skipOn fuel true within rest
      else if !afterValue then (e.skipKey (c :: rest)).bind (skipWithin fuel (e :: within))
      else if c == some ',' then (e.skipKey rest).bind (skipWithin fuel (e :: within))
      else .error e.expectedEnd

end

/-- Passes over a value. -/
def skipValue (cs : JsonInput) : Except JsonFault JsonInput :=
  skipWithin (2 * cs.length + 2) [] cs

end DocLint.JsonInput
