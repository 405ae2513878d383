/-!
# White space

`isWhite` is the Unicode property `White_Space`. It is wider than `Char.isWhitespace`, which knows
four ASCII characters only.
-/

namespace DocLint.Text

set_option autoImplicit false

/-- Characters with the Unicode property `White_Space`. -/
def isWhite (c : Char) : Bool :=
  let n := c.toNat
  (9 ≤ n && n ≤ 13) || n == 0x20 || n == 0x85 || n == 0xA0 || n == 0x1680 ||
    (0x2000 ≤ n && n ≤ 0x200A) || n == 0x2028 || n == 0x2029 || n == 0x202F || n == 0x205F ||
    n == 0x3000

/-- Removes white space from both ends. -/
def trimChars (cs : List Char) : List Char :=
  ((cs.dropWhile isWhite).reverse.dropWhile isWhite).reverse

/-- Removes white space from both ends. -/
def trim (s : String) : String :=
  String.ofList (trimChars s.toList)

/-- A text is blank when it holds white space only. -/
def isBlank (s : String) : Bool :=
  s.toList.all isWhite

/-- The first run of characters that are not white space, if there is one. -/
def firstWord? (s : String) : Option String :=
  match (s.toList.dropWhile isWhite).takeWhile (!isWhite ·) with
  | [] => none
  | word => some (String.ofList word)

end DocLint.Text
