import DocLint.Jsonc.Token

/-!
# Values of relaxed JSON

Commas between elements and members may be missing, and one may stand behind the last. A text without a
value is permitted. Numbers that are too large for their kind are kept as strings.
-/

namespace DocLint.Jsonc

set_option autoImplicit false

/-- The greatest integer with a sign. -/
def maxSigned : Nat := Nat.pow 2 63 - 1

/-- The value of a number's text. -/
def numberValue (text : List Char) : Json :=
  let (negative, magnitude) := match text with
    | '-' :: rest => (true, rest)
    | '+' :: rest => (false, rest)
    | rest => (false, rest)
  let tooLarge := Json.string (String.ofList text)
  match magnitude with
  | '0' :: x :: digits =>
    if x == 'x' || x == 'X' then
      let n := hexValue digits
      if maxSigned < n then tooLarge
      else .number (.integer (if negative then -(n : Int) else n))
    else decimal negative magnitude tooLarge
  | _ => decimal negative magnitude tooLarge
where
  /-- The value of a decimal number. -/
  decimal (negative : Bool) (magnitude : List Char) (tooLarge : Json) : Json :=
    match Reading.readMagnitude negative (magnitude.map some) with
    | .ok (n, _) => .number n
    | .error _ => tooLarge

/-- The key that a token stands for. -/
def key? : Token → Option String
  | .string s => some s
  | .word s => some s
  | .number text => some (String.ofList text)
  | _ => none

/-- Passes over a comma: the token after it, or the token itself. -/
def afterComma (s : Scan) : Except Fault Scan :=
  if s.token = some .comma then scan s.rest else .ok s

mutual

/-- Reads the value that begins with a token: the value and the text after it; none at the end. Each step
takes a token, so the number of characters bounds the steps. -/
def readValue : Nat → Scan → Except Fault (Option (Json × List Char))
  | 0, _ => .ok none
  | fuel + 1, s =>
    match s.token with
    | none => .ok none
    | some .openBrace => do
      let (members, rest) ← readMembers fuel s.start [] (← scan s.rest)
      return some (Json.ofMembers members, rest)
    | some .openBracket => do
      let (elements, rest) ← readElements fuel s.start [] (← scan s.rest)
      return some (.array elements, rest)
    | some (.string v) => .ok (some (.string v, s.rest))
    | some (.bool b) => .ok (some (.bool b, s.rest))
    | some (.number text) => .ok (some (numberValue text, s.rest))
    | some .null => .ok (some (.null, s.rest))
    | some .closeBracket => s.fault .unexpectedBracket
    | some .closeBrace => s.fault .unexpectedBrace
    | some .comma => s.fault .unexpectedComma
    | some .colon => s.fault .unexpectedColon
    | some (.word _) => s.fault .unexpectedWord

/-- Reads the elements of an array from a token on; `start` is the text from its bracket on. -/
def readElements : Nat → List Char → List Json → Scan → Except Fault (List Json × List Char)
  | 0, start, _, _ => faultAt .unterminatedArray start
  | fuel + 1, start, taken, s =>
    if s.token = some .closeBracket then
      .ok (taken.reverse, s.rest)
    else do
      match ← readValue fuel s with
      | none => faultAt .unterminatedArray start
      | some (v, rest) =>
        readElements fuel start (v :: taken) (← afterComma (← scan rest))

/-- Reads the members of an object from a token on; `start` is the text from its brace on. -/
def readMembers :
    Nat → List Char → List (String × Json) → Scan → Except Fault (List (String × Json) × List Char)
  | 0, start, _, _ => faultAt .unterminatedObject start
  | fuel + 1, start, taken, s =>
    match s.token with
    | none => faultAt .unterminatedObject start
    | some .closeBrace => .ok (taken.reverse, s.rest)
    | some t =>
      match key? t with
      | none => s.fault .unexpectedInObject
      | some key => do
        let colon ← scan s.rest
        if colon.token ≠ some .colon then
          colon.fault .expectedColon
        else
          let value ← scan colon.rest
          match ← readValue fuel value with
          | none => value.fault .expectedPropertyValue
          | some (v, rest) =>
            readMembers fuel start ((key, v) :: taken) (← afterComma (← scan rest))

end

/-- Reads a whole text: its value, if it has one. -/
def read (cs : List Char) : Except Fault (Option Json) := do
  match ← readValue (2 * cs.length + 2) (← scan cs) with
  | none => return none
  | some (v, rest) =>
    let after ← scan rest
    if after.token.isSome then after.fault .severalValues else return some v

/-- The line and column after some characters, counted from one. -/
def place (line column : Nat) : List Char → Nat × Nat
  | [] => (line, column)
  | c :: rest => if c == '\n' then place (line + 1) 1 rest else place line (column + 1) rest

/-- The text of a fault and of its place. -/
def Fault.message (f : Fault) (cs : List Char) : String :=
  let (line, column) := place 1 1 (cs.take (cs.length - f.left))
  f.kind.message ++ " on line " ++ toString line ++ " column " ++ toString column

/-- Parses a text; the value is absent when there is nothing but space and comments. -/
def parse (text : String) : Except String (Option Json) :=
  (read text.toList).mapError fun f => f.message text.toList

end DocLint.Jsonc
