import DocLint.Markdown.CharacterName

/-!
# Escapes and character references

A backslash before ASCII punctuation stands for that punctuation; `&name;`, `&#decimal;` and
`&#xhex;` stand for characters. Both are read in text and in the words of an info string.
-/

namespace DocLint.Markdown

set_option autoImplicit false

/-- ASCII characters that are neither letters, digits, spaces nor controls. -/
def isAsciiPunctuation (c : Char) : Bool :=
  let n := c.toNat
  (33 ≤ n && n ≤ 47) || (58 ≤ n && n ≤ 64) || (91 ≤ n && n ≤ 96) || (123 ≤ n && n ≤ 126)

/-- ASCII letters. -/
def isAsciiAlpha (c : Char) : Bool :=
  ('a' ≤ c && c ≤ 'z') || ('A' ≤ c && c ≤ 'Z')

def isAsciiDigit (c : Char) : Bool :=
  '0' ≤ c && c ≤ '9'

/-- ASCII letters and digits. -/
def isAsciiAlphanumeric (c : Char) : Bool :=
  isAsciiAlpha c || isAsciiDigit c

/-- The character a numeric reference stands for; controls and numbers that are no code point become
the replacement character. -/
def numericCharacter (n : Nat) : Char :=
  if n ≤ 8 || n == 0x0B || (0x0E ≤ n && n ≤ 0x1F) || (0x7F ≤ n && n ≤ 0x9F) || !n.isValidChar then
    '\uFFFD'
  else
    Char.ofNat n

/-- The number written by hexadecimal digits. -/
def hexNumber (digits : List Char) : Nat :=
  digits.foldl (fun n c => 16 * n + (hexValue? c).getD 0) 0

/-- The form of a character reference after its ampersand: what its name or number is made of, and
how long that may be. -/
inductive ReferenceForm where
  | named
  | decimal
  | hexadecimal
  deriving DecidableEq, Repr

namespace ReferenceForm

/-- The greatest length of the name or number. -/
def limit : ReferenceForm → Nat
  | named => 31
  | decimal => 7
  | hexadecimal => 6

/-- The characters that the name or number is made of. -/
def accepts : ReferenceForm → Char → Bool
  | named => isAsciiAlphanumeric
  | decimal => isAsciiDigit
  | hexadecimal => fun c => (hexValue? c).isSome

/-- What a name or number stands for. -/
def value? (form : ReferenceForm) (body : List Char) : Option (List Char) :=
  match form with
  | named => namedCharacters? body
  | decimal => some [numericCharacter (body.foldl (fun n c => 10 * n + (c.toNat - 48)) 0)]
  | hexadecimal => some [numericCharacter (hexNumber body)]

end ReferenceForm

/-- Reads the name or number of a reference up to its semicolon: the characters it stands for and the
number of characters read. `used` characters count as read before, which no name allows. -/
def readReferenceBody (used : Nat) (form : ReferenceForm) (cs : List Char) :
    Option (List Char × Nat) :=
  let body := cs.takeWhile form.accepts
  if body.isEmpty || form.limit < used + body.length || (used ≠ 0 && form = .named) then
    none
  else
    match cs.drop body.length with
    | ';' :: _ => (form.value? body).map fun value => (value, body.length + 1)
    | _ => none

/-- Reads a character reference after its ampersand: the characters it stands for and the number of
characters read. `used` characters of its body count as read before. -/
def readReference (used : Nat) : List Char → Option (List Char × Nat)
  | '#' :: 'x' :: cs | '#' :: 'X' :: cs =>
    (readReferenceBody used .hexadecimal cs).map fun (value, n) => (value, n + 2)
  | '#' :: cs => (readReferenceBody used .decimal cs).map fun (value, n) => (value, n + 1)
  | cs => readReferenceBody used .named cs

/-- A text with `skip` characters still to be dropped, its escapes and references resolved. -/
def decodeFrom (skip : Nat) : List Char → List Char
  | [] => []
  | c :: rest =>
    match skip with
    | n + 1 => decodeFrom n rest
    | 0 =>
      if c == '\\' then
        match rest with
        | d :: _ => if isAsciiPunctuation d then d :: decodeFrom 1 rest else c :: decodeFrom 0 rest
        | [] => [c]
      else if c == '&' then
        match readReference 0 rest with
        | some (value, n) => value ++ decodeFrom n rest
        | none => c :: decodeFrom 0 rest
      else
        c :: decodeFrom 0 rest

/-- A text with its escapes and references resolved. -/
def decodeText (cs : List Char) : String :=
  String.ofList (decodeFrom 0 cs)

end DocLint.Markdown
