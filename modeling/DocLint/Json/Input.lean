/-!
# JSON texts

A JSON text is looked at character by character. What is common to reading values and to passing over them
is here: the faults, white space, escapes, digits and words.
-/

namespace DocLint

set_option autoImplicit false

/-- What is wrong with a JSON text. -/
inductive JsonFault where
  | eofInList
  | eofInObject
  | eofInString
  | eofInValue
  | expectedColon
  | expectedListEnd
  | expectedObjectEnd
  | expectedIdent
  | expectedValue
  | invalidEscape
  | invalidNumber
  | numberOutOfRange
  | invalidCodePoint
  | controlCharacter
  | keyNotString
  | loneSurrogate
  | trailingComma
  | trailingCharacters
  | unfinishedEscape
  | tooDeep
  deriving DecidableEq, Repr

/-- The text of a fault. -/
def JsonFault.message : JsonFault → String
  | eofInList => "EOF while parsing a list"
  | eofInObject => "EOF while parsing an object"
  | eofInString => "EOF while parsing a string"
  | eofInValue => "EOF while parsing a value"
  | expectedColon => "expected `:`"
  | expectedListEnd => "expected `,` or `]`"
  | expectedObjectEnd => "expected `,` or `\x7d`"
  | expectedIdent => "expected ident"
  | expectedValue => "expected value"
  | invalidEscape => "invalid escape"
  | invalidNumber => "invalid number"
  | numberOutOfRange => "number out of range"
  | invalidCodePoint => "invalid unicode code point"
  | controlCharacter => "control character (\\u0000-\\u001F) found while parsing a string"
  | keyNotString => "key must be a string"
  | loneSurrogate => "lone leading surrogate in hex escape"
  | trailingComma => "trailing comma"
  | trailingCharacters => "trailing characters"
  | unfinishedEscape => "unexpected end of hex escape"
  | tooDeep => "recursion limit exceeded"

/-- A text of which some characters may be no valid encoding. -/
abbrev JsonInput := List (Option Char)

namespace JsonInput

/-- Skips white space between values. -/
def skipSpace : JsonInput → JsonInput
  | some c :: rest =>
    if c == ' ' || c == '\n' || c == '\t' || c == '\r' then skipSpace rest else some c :: rest
  | cs => cs

/-- The value of a hexadecimal digit. -/
def hexDigit? (c : Char) : Option Nat :=
  if '0' ≤ c ∧ c ≤ '9' then some (c.toNat - 48)
  else if 'a' ≤ c ∧ c ≤ 'f' then some (c.toNat - 87)
  else if 'A' ≤ c ∧ c ≤ 'F' then some (c.toNat - 55)
  else none

/-- Whether at least so many bytes are left. A piece that encodes nothing counts as one. -/
def hasBytes (n : Nat) (cs : JsonInput) : Bool :=
  n ≤ (cs.take n).foldl (fun sum c => sum + c.elim 1 Char.utf8Size) 0

/-- The number of four hexadecimal digits, and what is left after them. -/
def hexFour (cs : JsonInput) : Except JsonFault (Nat × JsonInput) :=
  if !hasBytes 4 cs then
    .error .eofInString
  else
    match (cs.take 4).mapM fun c => c.bind hexDigit? with
    | some digits => .ok (digits.foldl (fun n d => 16 * n + d) 0, cs.drop 4)
    | none => .error .invalidEscape

/-- The character of an escape with a single letter. -/
def simpleEscape? (c : Char) : Option Char :=
  match c with
  | '"' => some '"'
  | '\\' => some '\\'
  | '/' => some '/'
  | 'b' => some (Char.ofNat 8)
  | 'f' => some (Char.ofNat 12)
  | 'n' => some '\n'
  | 'r' => some '\r'
  | 't' => some '\t'
  | _ => none

/-- Whether a character is a decimal digit. -/
def digit? (c : Option Char) : Option Nat :=
  c.bind fun c => if '0' ≤ c ∧ c ≤ '9' then some (c.toNat - 48) else none

/-- Passes over digits and counts them. -/
def countDigits (count : Nat) : JsonInput → Nat × JsonInput
  | [] => (count, [])
  | c :: rest => if (digit? c).isSome then countDigits (count + 1) rest else (count, c :: rest)

/-- Passes over what is left of a word. -/
def passWord : List Char → JsonInput → Except JsonFault JsonInput
  | [], cs => .ok cs
  | _ :: _, [] => .error .eofInValue
  | w :: word, c :: rest => if c == some w then passWord word rest else .error .expectedIdent

end JsonInput

end DocLint
