/-!
# Comparison without regard to ASCII case

Names, option keys and languages are compared after folding the letters A to Z; every other
character stands for itself.
-/

namespace DocLint.Text

set_option autoImplicit false

/-- Lower-cases the letters A to Z. -/
def asciiLower (s : String) : String :=
  String.ofList (s.toList.map Char.toLower)

/-- Equality of two texts when the case of ASCII letters is ignored. -/
def eqIgnoreCase (a b : String) : Bool :=
  a.toList.map Char.toLower == b.toList.map Char.toLower

@[simp] theorem eqIgnoreCase_refl (a : String) : eqIgnoreCase a a = true := by
  simp [eqIgnoreCase]

theorem eqIgnoreCase_comm (a b : String) : eqIgnoreCase a b = eqIgnoreCase b a :=
  Bool.beq_comm

theorem asciiLower_eq_iff {a b : String} : asciiLower a = asciiLower b ↔ eqIgnoreCase a b = true := by
  rw [eqIgnoreCase, beq_iff_eq, asciiLower, asciiLower, String.ofList_inj]

/-- Whether `p` is a prefix of `s`. -/
def startsWith (s p : String) : Bool :=
  p.toList.isPrefixOf s.toList

/-- Whether `part` occurs somewhere in a list of characters. -/
def containsChars (part : List Char) : List Char → Bool
  | [] => part.isEmpty
  | c :: rest => part.isPrefixOf (c :: rest) || containsChars part rest

/-- Whether `part` occurs somewhere in `s`. -/
def contains (s part : String) : Bool :=
  containsChars part.toList s.toList

end DocLint.Text
