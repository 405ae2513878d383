import DocLint.Json.Reading
import DocLint.Text.Blank
import DocLint.Text.Property

/-!
# Tokens of relaxed JSON

Relaxed JSON has comments, strings in single quotes, hexadecimal numbers and numbers with a plus sign,
and keys without quotes. A token is read from the front of a text; a fault is located by the number of
characters that are left where it is.
-/

namespace DocLint.Jsonc

set_option autoImplicit false

/-- What is wrong with a text. -/
inductive FaultKind where
  | expectedColon
  | expectedDigit
  | expectedDigitAfterSign
  | expectedExponent
  | expectedFourDigits
  | expectedPropertyValue
  | invalidEscape
  | invalidEscapeInDouble
  | invalidEscapeInSingle
  | invalidUnicode (what : String)
  | severalValues
  | unexpectedBrace
  | unexpectedBracket
  | unexpectedColon
  | unexpectedComma
  | unexpectedToken
  | unexpectedInObject
  | unexpectedWord
  | unterminatedArray
  | unterminatedComment
  | unterminatedObject
  | unterminatedString
  deriving DecidableEq, Repr

/-- The text of a fault. -/
def FaultKind.message : FaultKind → String
  | expectedColon => "Expected colon after the string or word in object property"
  | expectedDigit => "Expected digit"
  | expectedDigitAfterSign => "Expected digit following negative sign"
  | expectedExponent => "Expected plus, minus, or digit in number literal"
  | expectedFourDigits => "Expected four hex digits"
  | expectedPropertyValue => "Expected value after colon in object property"
  | invalidEscape => "Invalid escape"
  | invalidEscapeInDouble => "Invalid escape in double quote string"
  | invalidEscapeInSingle => "Invalid escape in single quote string"
  | invalidUnicode what =>
    "Invalid unicode escape sequence. '" ++ what ++ "' is not a valid UTF8 character"
  | severalValues => "Text cannot contain more than one JSON value"
  | unexpectedBrace => "Unexpected close brace"
  | unexpectedBracket => "Unexpected close bracket"
  | unexpectedColon => "Unexpected colon"
  | unexpectedComma => "Unexpected comma"
  | unexpectedToken => "Unexpected token"
  | unexpectedInObject => "Unexpected token in object"
  | unexpectedWord => "Unexpected word"
  | unterminatedArray => "Unterminated array"
  | unterminatedComment => "Unterminated comment block"
  | unterminatedObject => "Unterminated object"
  | unterminatedString => "Unterminated string literal"

/-- A fault, and the number of characters from its place to the end. -/
structure Fault where
  kind : FaultKind
  left : Nat
  deriving DecidableEq, Repr

/-- A fault at the begin of what is left of a text. -/
def faultAt {α : Type} (kind : FaultKind) (cs : List Char) : Except Fault α :=
  .error ⟨kind, cs.length⟩

inductive Token where
  | openBrace
  | closeBrace
  | openBracket
  | closeBracket
  | comma
  | colon
  | string (s : String)
  | word (s : String)
  | number (text : List Char)
  | bool (b : Bool)
  | null
  deriving DecidableEq, Repr

/-! ## Strings -/

/-- The value of four hexadecimal digits. -/
def hexValue (digits : List Char) : Nat :=
  digits.foldl (fun n c => 16 * n + (JsonInput.hexDigit? c).getD 0) 0

/-- Reads four hexadecimal digits; the fault is located at the begin of the escape. -/
def readFour (escape cs : List Char) : Except Fault (List Char × List Char) :=
  let digits := cs.take 4
  if digits.length = 4 && digits.all fun c => (JsonInput.hexDigit? c).isSome then
    .ok (digits, cs.drop 4)
  else
    faultAt .expectedFourDigits escape

/-- Reads a code unit after the `u` of an escape; two surrogates make one character. -/
def readUnicode (escape cs : List Char) : Except Fault (Char × List Char) := do
  let (digits, rest) ← readFour escape cs
  let n := hexValue digits
  let invalid {α : Type} (why : String) : Except Fault α :=
    faultAt (.invalidUnicode (String.ofList digits ++ " (" ++ why ++ ")")) escape
  if 0xD800 ≤ n ∧ n ≤ 0xDBFF then
    match rest with
    | '\\' :: 'u' :: more =>
      let (second, rest) ← readFour escape more
      let m := hexValue second
      if 0xDC00 ≤ m ∧ m ≤ 0xDFFF then
        return (Char.ofNat (0x10000 + (n - 0xD800) * 0x400 + (m - 0xDC00)), rest)
      else
        invalid "high surrogate not followed by low surrogate"
    | _ => invalid "unpaired high surrogate"
  else if 0xDC00 ≤ n ∧ n ≤ 0xDFFF then
    invalid "unpaired low surrogate"
  else
    return (Char.ofNat n, rest)

/-- Reads an escape after its backslash. `escape` is the text from the backslash on. -/
def readEscape (quote : Char) (escape : List Char) (c : Char) (rest : List Char) :
    Except Fault (Char × List Char) :=
  match c with
  | '"' => if quote == '"' then .ok (c, rest) else faultAt .invalidEscapeInSingle escape
  | '\'' => if quote == '\'' then .ok (c, rest) else faultAt .invalidEscapeInDouble escape
  | '\\' => .ok (c, rest)
  | '/' => .ok (c, rest)
  | 'b' => .ok (Char.ofNat 8, rest)
  | 'f' => .ok (Char.ofNat 12, rest)
  | 'n' => .ok ('\n', rest)
  | 'r' => .ok ('\r', rest)
  | 't' => .ok ('\t', rest)
  | 'u' => readUnicode escape rest
  | _ => faultAt .invalidEscape escape

/-- Reads a string up to its closing quote, `taken` being its characters so far, newest first. `start` is
the text from the opening quote on. Every step takes a character, so their number bounds the steps. -/
def readString (quote : Char) (start : List Char) :
    Nat → List Char → List Char → Except Fault (String × List Char)
  | 0, _, _ => faultAt .unterminatedString start
  | _, _, [] => faultAt .unterminatedString start
  | fuel + 1, taken, c :: rest =>
    if c == quote then
      .ok (String.ofList taken.reverse, rest)
    else if c == '\\' then
      match rest with
      | [] => faultAt .unterminatedString start
      | e :: more => do
        let (value, rest) ← readEscape quote (c :: rest) e more
        readString quote start fuel (value :: taken) rest
    else
      readString quote start fuel (c :: taken) rest

/-! ## Numbers -/

/-- Whether a character is a decimal digit. -/
def isDigit (c : Char) : Bool :=
  '0' ≤ c && c ≤ '9'

/-- Passes over digits, of which there has to be one; else there is a fault. -/
def passDigits (kind : FaultKind) (cs : List Char) : Except Fault (List Char) :=
  match cs with
  | c :: _ => if isDigit c then .ok (cs.dropWhile isDigit) else faultAt kind cs
  | [] => faultAt kind cs

/-- Passes over the places of a number, if there are any. -/
def passPlaces : List Char → Except Fault (List Char)
  | '.' :: rest => passDigits .expectedDigit rest
  | cs => .ok cs

/-- Passes over the exponent of a number, if there is one. -/
def passExponent (cs : List Char) : Except Fault (List Char) :=
  match cs with
  | c :: rest =>
    if c == 'e' || c == 'E' then
      match rest with
      | '+' :: rest => passDigits .expectedDigit rest
      | '-' :: rest => passDigits .expectedDigit rest
      | rest => passDigits .expectedExponent rest
    else
      .ok cs
  | [] => .ok cs

/-- Passes over a number after its sign. After a zero no further digits belong to it. -/
def passMagnitude (cs : List Char) : Except Fault (List Char) :=
  match cs with
  | '0' :: rest =>
    match rest with
    | c :: digits =>
      if c == 'x' || c == 'X' then
        match digits with
        | d :: _ =>
          if (JsonInput.hexDigit? d).isSome then
            .ok (digits.dropWhile fun c => (JsonInput.hexDigit? c).isSome)
          else
            faultAt .expectedDigit digits
        | [] => faultAt .expectedDigit digits
      else
        (passPlaces rest).bind passExponent
    | [] => .ok rest
  | c :: _ =>
    if isDigit c then (passPlaces (cs.dropWhile isDigit)).bind passExponent
    else faultAt .expectedDigitAfterSign cs
  | [] => faultAt .expectedDigitAfterSign cs

/-- Reads a number: its text. -/
def readNumber (cs : List Char) : Except Fault (Token × List Char) := do
  let magnitude := match cs with
    | c :: rest => if c == '-' || c == '+' then rest else cs
    | [] => cs
  let rest ← passMagnitude magnitude
  return (.number (cs.take (cs.length - rest.length)), rest)

/-! ## Words -/

/-- Reads a word. It ends at white space or a colon, and consists of letters, numbers, hyphens and
underscores only. -/
def readWord (cs : List Char) : Except Fault (Token × List Char) :=
  let word := cs.takeWhile fun c => !Text.isWhite c && c != ':'
  if word.isEmpty || !word.all fun c => Text.isAlphanumeric c || c == '-' || c == '_' then
    faultAt .unexpectedToken cs
  else
    .ok (.word (String.ofList word), cs.drop word.length)

/-- What is left after a word that stands for a value, if it is one. -/
def keyword? (word cs : List Char) : Option (List Char) :=
  if word.isPrefixOf cs then
    let rest := cs.drop word.length
    match rest with
    | c :: _ => if Text.isAlphanumeric c then none else some rest
    | [] => some rest
  else
    none

/-- Reads a word, a value or a number. -/
def readOther (c : Char) (cs : List Char) : Except Fault (Token × List Char) :=
  if c == '-' || c == '+' || isDigit c then readNumber cs
  else match keyword? ['t', 'r', 'u', 'e'] cs with
    | some rest => .ok (.bool true, rest)
    | none => match keyword? ['f', 'a', 'l', 's', 'e'] cs with
      | some rest => .ok (.bool false, rest)
      | none => match keyword? ['n', 'u', 'l', 'l'] cs with
        | some rest => .ok (.null, rest)
        | none => readWord cs

/-! ## Comments -/

/-- Passes over a comment up to the end of its line. -/
def passLine : List Char → List Char
  | [] => []
  | '\n' :: rest => '\n' :: rest
  | '\r' :: '\n' :: rest => '\r' :: '\n' :: rest
  | _ :: rest => passLine rest

/-- Passes over a comment up to its end, if it has one. -/
def passBlock? : List Char → Option (List Char)
  | [] => none
  | '*' :: '/' :: rest => some rest
  | _ :: rest => passBlock? rest

/-- Passes over white space and comments. Every step takes a character, so their number bounds the
steps. -/
def passSpace : Nat → List Char → Except Fault (List Char)
  | 0, cs => .ok cs
  | fuel + 1, cs =>
    match cs.dropWhile Text.isWhite with
    | '/' :: '/' :: rest => passSpace fuel (passLine rest)
    | '/' :: '*' :: rest =>
      match passBlock? rest with
      | some rest => passSpace fuel rest
      | none => faultAt .unterminatedComment ('/' :: '*' :: rest)
    | rest => .ok rest

/-! ## The next token -/

/-- A token, the text from its first character on, and the text after it. At the end there is none. -/
structure Scan where
  token : Option Token
  start : List Char
  rest : List Char
  deriving Repr

def Scan.fault {α : Type} (s : Scan) (kind : FaultKind) : Except Fault α :=
  faultAt kind s.start

/-- Reads the next token. -/
def scan (cs : List Char) : Except Fault Scan := do
  let start ← passSpace (cs.length + 1) cs
  let one (t : Token) (rest : List Char) : Except Fault Scan := .ok ⟨some t, start, rest⟩
  match start with
  | [] => return ⟨none, [], []⟩
  | c :: rest =>
    match c with
    | '\x7b' => one .openBrace rest
    | '\x7d' => one .closeBrace rest
    | '[' => one .openBracket rest
    | ']' => one .closeBracket rest
    | ',' => one .comma rest
    | ':' => one .colon rest
    | '/' => faultAt .unexpectedToken start
    | c =>
      if c == '"' || c == '\'' then
        let (s, rest) ← readString c start (rest.length + 1) [] rest
        one (.string s) rest
      else
        let (t, rest) ← readOther c start
        one t rest

end DocLint.Jsonc
