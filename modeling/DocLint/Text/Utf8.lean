/-!
# Byte offsets in a text

Positions are counted in bytes of the UTF-8 encoding. `dropBytes` and `takeBytes` are defined only
where the offset falls between two characters, so `slice?` never cuts a character in two.
-/

namespace DocLint.Text

set_option autoImplicit false

/-- The number of bytes that encode a list of characters. -/
def byteLength : List Char → Nat
  | [] => 0
  | c :: rest => c.utf8Size + byteLength rest

@[simp] theorem byteLength_nil : byteLength [] = 0 := rfl

@[simp] theorem byteLength_cons (c : Char) (rest : List Char) :
    byteLength (c :: rest) = c.utf8Size + byteLength rest := rfl

theorem byteLength_append (a b : List Char) :
    byteLength (a ++ b) = byteLength a + byteLength b := by
  induction a with
  | nil => simp
  | cons c rest ih => simp [ih, Nat.add_assoc]

/-- What remains after the first `n` bytes, when `n` is a character boundary. -/
def dropBytes : Nat → List Char → Option (List Char)
  | 0, cs => some cs
  | _ + 1, [] => none
  | n + 1, c :: rest => if c.utf8Size ≤ n + 1 then dropBytes (n + 1 - c.utf8Size) rest else none
termination_by structural _ cs => cs

/-- The characters of the first `n` bytes, when `n` is a character boundary. -/
def takeBytes : Nat → List Char → Option (List Char)
  | 0, _ => some []
  | _ + 1, [] => none
  | n + 1, c :: rest =>
    if c.utf8Size ≤ n + 1 then (takeBytes (n + 1 - c.utf8Size) rest).map (c :: ·) else none
termination_by structural _ cs => cs

/-- The text between two byte offsets, when both are character boundaries in order. -/
def slice? (text : String) (start stop : Nat) : Option String :=
  if start ≤ stop then
    ((dropBytes start text.toList).bind (takeBytes (stop - start))).map String.ofList
  else
    none

/-- The byte offset of the first character that satisfies `p`. -/
def findOffset? (p : Char → Bool) : List Char → Option Nat
  | [] => none
  | c :: rest => if p c then some 0 else (findOffset? p rest).map (c.utf8Size + ·)

/-- Whether `a` stands before `b` when their encodings are compared byte by byte. Code points and
their encodings sort alike, so characters are compared. -/
def bytesLt (a b : String) : Bool :=
  decide (a < b)

/-! ## Bytes -/

/-- What the first byte of an encoded character says: the number of bytes that follow, the bits that it
holds, and the range of the byte after it. -/
def leadByte? (b : Nat) : Option (Nat × Nat × Nat × Nat) :=
  if b < 0x80 then some (0, b, 0x80, 0xBF)
  else if 0xC2 ≤ b && b ≤ 0xDF then some (1, b - 0xC0, 0x80, 0xBF)
  else if b == 0xE0 then some (2, 0, 0xA0, 0xBF)
  else if b == 0xED then some (2, 0xD, 0x80, 0x9F)
  else if 0xE1 ≤ b && b ≤ 0xEF then some (2, b - 0xE0, 0x80, 0xBF)
  else if b == 0xF0 then some (3, 0, 0x90, 0xBF)
  else if 0xF1 ≤ b && b ≤ 0xF3 then some (3, b - 0xF0, 0x80, 0xBF)
  else if b == 0xF4 then some (3, 4, 0x80, 0x8F)
  else none

/-- Decodes bytes, `more` of which are still to follow for the character whose first bits are `bits`, the
next of them between `lo` and `hi`. Every longest piece that begins no character is `none`. -/
def decodeFrom? (more bits lo hi : Nat) : List UInt8 → List (Option Char)
  | [] => if more = 0 then [] else [none]
  | b :: rest =>
    let fresh : List (Option Char) :=
      match leadByte? b.toNat with
      | some (0, v, _, _) => some (Char.ofNat v) :: decodeFrom? 0 0 0 0 rest
      | some (n, v, lo, hi) => decodeFrom? n v lo hi rest
      | none => none :: decodeFrom? 0 0 0 0 rest
    match more with
    | 0 => fresh
    | more + 1 =>
      if lo ≤ b.toNat && b.toNat ≤ hi then
        let bits := bits * 64 + b.toNat % 64
        if more = 0 then some (Char.ofNat bits) :: decodeFrom? 0 0 0 0 rest
        else decodeFrom? more bits 0x80 0xBF rest
      else
        none :: fresh

/-- The characters that bytes encode; `none` for each piece that encodes none. -/
def decodeBytes (bytes : List UInt8) : List (Option Char) :=
  decodeFrom? 0 0 0 0 bytes

/-- The text that bytes encode, if they encode one. -/
def textOfBytes? (bytes : List UInt8) : Option String :=
  ((decodeBytes bytes).mapM id).map String.ofList

/-- The text that bytes encode, with replacement characters for what encodes none. -/
def textOfBytesLossy (bytes : List UInt8) : String :=
  String.ofList ((decodeBytes bytes).map fun c => c.getD '\uFFFD')

end DocLint.Text
