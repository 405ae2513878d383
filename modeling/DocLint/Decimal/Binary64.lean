/-!
# Doubles

A finite double is a sign, a mantissa and a power of two. Quotients are rounded to the nearest double,
of two nearest ones to the one with an even mantissa.
-/

namespace DocLint.Decimal

set_option autoImplicit false

/-- A finite double: the mantissa times two to the exponent. The mantissa has 53 bits unless the
exponent is the least one. -/
structure Binary64 where
  negative : Bool
  mantissa : Nat
  exponent : Int
  deriving DecidableEq, Repr

/-- A quotient rounded to the nearest number, of two nearest ones to the even one. -/
def roundHalfEven (num den : Nat) : Nat :=
  let q := num / den
  let r := num % den
  if 2 * r < den || (2 * r == den && q % 2 == 0) then q else q + 1

/-- A power with an exponent that is taken as zero when it is negative. -/
def powNat (base : Nat) (e : Int) : Nat :=
  Nat.pow base e.toNat

namespace Binary64

/-- The least exponent. -/
def minExponent : Int := -1074

/-- The greatest exponent. -/
def maxExponent : Int := 971

/-- The number of mantissas, and the least mantissa that has all its bits. -/
def mantissaLimit : Nat := Nat.pow 2 53

/-- The least mantissa that has all its bits. -/
def fullMantissa : Nat := Nat.pow 2 52

/-- The double nearest to a quotient, unless it is too large. -/
def ofRatio (negative : Bool) (num den : Nat) : Option Binary64 :=
  if num = 0 then
    some ⟨negative, 0, minExponent⟩
  else
    let e : Int := (Nat.log2 num : Int) - Nat.log2 den - 52
    let e := if num * powNat 2 (-e) < fullMantissa * den * powNat 2 e then e - 1 else e
    let e := max e minExponent
    let m := roundHalfEven (num * powNat 2 (-e)) (den * powNat 2 e)
    let (m, e) := if m = mantissaLimit then (fullMantissa, e + 1) else (m, e)
    if maxExponent < e then none else some ⟨negative, m, e⟩

/-- The numerator of the magnitude. -/
def num (x : Binary64) : Nat :=
  x.mantissa * powNat 2 x.exponent

/-- The denominator of the magnitude. -/
def den (x : Binary64) : Nat :=
  powNat 2 (-x.exponent)

/-- The product with a power of ten that is itself rounded; `none` if it is too large. -/
def scaleUp (x : Binary64) (e : Nat) : Option Binary64 :=
  (ofRatio false (Nat.pow 10 e) 1).bind fun p => ofRatio x.negative (x.num * p.num) (x.den * p.den)

/-- The quotient by a power of ten that is itself rounded. -/
def scaleDown (x : Binary64) (e : Nat) : Option Binary64 :=
  (ofRatio false (Nat.pow 10 e) 1).bind fun p => ofRatio x.negative (x.num * p.den) (x.den * p.num)

/-- The magnitude as a natural number, if it is one. -/
def toNat? (x : Binary64) : Option Nat :=
  if x.num % x.den = 0 then some (x.num / x.den) else none

end Binary64

end DocLint.Decimal
