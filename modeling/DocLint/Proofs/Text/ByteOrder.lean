import DocLint.Text.Utf8
import Mathlib.Data.Char
import Mathlib.Data.List.Lex
import Mathlib.Order.Lattice
import Mathlib.Order.Monotone.Basic

/-!
# Texts in the order of their bytes

Texts are compared character by character. That is the order of their encodings compared byte by byte: of
two different characters the one with the smaller number has the smaller encoding, whatever follows.
-/

namespace DocLint.Text

set_option autoImplicit false

/-- The bytes that encode a text. -/
def bytes (s : String) : List Nat :=
  s.toUTF8.data.toList.map UInt8.toNat

/-- The bytes that encode the character with a number. -/
def charBytes (v : Nat) : List Nat :=
  if v ≤ 0x7F then [v]
  else if v ≤ 0x7FF then [v / 64 + 0xC0, v % 64 + 0x80]
  else if v ≤ 0xFFFF then [v / 4096 + 0xE0, v / 64 % 64 + 0x80, v % 64 + 0x80]
  else [v / 262144 + 0xF0, v / 4096 % 64 + 0x80, v / 64 % 64 + 0x80, v % 64 + 0x80]

theorem val_lt_of_char (c : Char) : c.val.toNat < 0x110000 := by
  have hvalid : c.val.toNat < 0xD800 ∨ 0xDFFF < c.val.toNat ∧ c.val.toNat < 0x110000 := c.valid
  omega

theorem utf8EncodeChar_map_toNat (c : Char) :
    (String.utf8EncodeChar c).map UInt8.toNat = charBytes c.val.toNat := by
  have hc := val_lt_of_char c
  unfold String.utf8EncodeChar charBytes
  simp only []
  generalize c.val.toNat = v at hc
  split_ifs <;> simp <;> omega

theorem bytes_eq_flatMap (s : String) :
    bytes s = s.toList.flatMap fun c => charBytes c.val.toNat := by
  rw [bytes, String.toUTF8_eq_toByteArray, ← String.utf8Encode_toList, List.utf8Encode,
    List.toList_data_toByteArray, List.map_flatMap]
  simp only [utf8EncodeChar_map_toNat]

/-- Encodings of different characters differ before one of them ends, and the smaller character has the
smaller one. -/
theorem charBytes_append_lt {v w : Nat} (h : v < w) (s t : List Nat) :
    charBytes v ++ s < charBytes w ++ t := by
  unfold charBytes
  split_ifs <;> simp only [List.cons_append, List.nil_append, List.cons_lt_cons_iff] <;> omega

theorem charBytes_ne_nil (v : Nat) : charBytes v ≠ [] := by
  unfold charBytes
  split_ifs <;> simp

theorem flatMap_charBytes_strictMono :
    StrictMono fun cs : List Char => cs.flatMap fun c => charBytes c.val.toNat := by
  intro cs ds h
  induction h with
  | @nil d ds =>
    obtain ⟨b, rest, hcons⟩ := List.exists_cons_of_ne_nil (charBytes_ne_nil d.val.toNat)
    simp only [List.flatMap_nil, List.flatMap_cons, hcons, List.cons_append]
    exact List.nil_lt_cons b _
  | @rel c cs d ds hcd =>
    simp only [List.flatMap_cons]
    exact charBytes_append_lt hcd _ _
  | @cons c cs ds _ ih =>
    simp only [List.flatMap_cons]
    exact List.append_left_lt ih

theorem bytesLt_iff (a b : String) : bytesLt a b = true ↔ bytes a < bytes b := by
  rw [bytesLt, decide_eq_true_eq, bytes_eq_flatMap, bytes_eq_flatMap]
  exact flatMap_charBytes_strictMono.lt_iff_lt.symm

theorem bytes_injective : Function.Injective bytes := by
  intro a b h
  rw [bytes_eq_flatMap, bytes_eq_flatMap] at h
  exact String.toList_injective (flatMap_charBytes_strictMono.injective h)

end DocLint.Text
