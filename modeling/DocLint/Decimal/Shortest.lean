import DocLint.Decimal.Binary64

/-!
# The shortest decimal of a double

Of all decimals that are nearest to a double the one with the fewest digits is written, and of those
the one closest to the double. Numbers from 1e-5 up to below 1e16 are written without an exponent.
-/

namespace DocLint.Decimal

set_option autoImplicit false

/-- A decimal: digits times a power of ten. -/
structure Digits where
  digits : Nat
  exponent : Int
  deriving DecidableEq, Repr

/-- The reals that are rounded to a double: the ends of the interval over the denominator `4 * den`, and
whether the ends belong to it. -/
structure Rounding where
  low : Nat
  value : Nat
  high : Nat
  den : Nat
  closed : Bool
  deriving Repr

/-- The reals that are rounded to a double other than zero. Below a power of two the doubles are closer
together. -/
def Rounding.ofDouble (x : Binary64) : Rounding :=
  let unit := powNat 2 x.exponent
  let below :=
    if x.mantissa = Binary64.fullMantissa && Binary64.minExponent < x.exponent then unit else 2 * unit
  { low := 4 * x.num - below
    value := 4 * x.num
    high := 4 * x.num + 2 * unit
    den := 4 * x.den
    closed := x.mantissa % 2 = 0 }

/-- Whether a decimal is rounded to the double. -/
def Rounding.contains (r : Rounding) (d : Digits) : Bool :=
  let v := d.digits * powNat 10 d.exponent * r.den
  let s := powNat 10 (-d.exponent)
  if r.closed then r.low * s ≤ v && v ≤ r.high * s else r.low * s < v && v < r.high * s

/-- The place of the first digit: the greatest power of ten that is not above the value, sought in at
most `fuel` steps from `p`. -/
def leadingPlace (num den : Nat) : Nat → Int → Int
  | 0, p => p
  | fuel + 1, p =>
    if num * powNat 10 (-p) < den * powNat 10 p then leadingPlace num den fuel (p - 1)
    else if den * powNat 10 (p + 1) ≤ num * powNat 10 (-(p + 1)) then leadingPlace num den fuel (p + 1)
    else p

/-- The decimals with `n` digits next to the value: below it or equal, and above it. -/
def neighbours (r : Rounding) (place : Int) (n : Nat) : Digits × Digits :=
  let e := place - n + 1
  let d := r.value * powNat 10 (-e) / (r.den * powNat 10 e)
  (⟨d, e⟩, ⟨d + 1, e⟩)

/-- The distance of a decimal from the value, over a denominator that depends on the exponent only. -/
def Rounding.distance (r : Rounding) (d : Digits) : Nat :=
  let a := d.digits * powNat 10 d.exponent * r.den
  let b := r.value * powNat 10 (-d.exponent)
  (a - b) + (b - a)

/-- The decimal with the fewest digits, from `n` on and at most `fuel` more. -/
def shortestFrom (r : Rounding) (place : Int) : Nat → Nat → Digits
  | 0, n => (neighbours r place n).1
  | fuel + 1, n =>
    let (lo, hi) := neighbours r place n
    match r.contains lo, r.contains hi with
    | true, true =>
      let a := r.distance lo
      let b := r.distance hi
      if a < b || (a == b && lo.digits % 2 == 0) then lo else hi
    | true, false => lo
    | false, true => hi
    | false, false => shortestFrom r place fuel (n + 1)

/-- Drops zeros at the end of the digits, at most `fuel`. -/
def dropZeros : Nat → Digits → Digits
  | 0, d => d
  | fuel + 1, d =>
    if d.digits ≠ 0 ∧ d.digits % 10 = 0 then dropZeros fuel ⟨d.digits / 10, d.exponent + 1⟩ else d

/-- The shortest decimal of the magnitude of a double. -/
def shortest (x : Binary64) : Digits :=
  if x.mantissa = 0 then
    ⟨0, 0⟩
  else
    let r := Rounding.ofDouble x
    let bits : Int := (Nat.log2 x.mantissa : Int) + x.exponent
    let place := leadingPlace r.value r.den 4 (bits * 30103 / 100000)
    dropZeros 20 (shortestFrom r place 17 1)

/-- The decimal digits of a number. -/
def digitsOf (n : Nat) : List Char :=
  Nat.toDigits 10 n

/-- The text of an exponent, with its sign. -/
def exponentText (e : Int) : List Char :=
  (if e < 0 then '-' else '+') :: digitsOf e.natAbs

/-- The text of a decimal: without an exponent and with at least one place if it lies from 1e-5 up to
below 1e16, else with one digit before the point and a signed exponent. -/
def Digits.text (d : Digits) : List Char :=
  let ds := digitsOf d.digits
  let n : Int := ds.length
  let point := n + d.exponent
  if d.digits = 0 then
    ['0', '.', '0']
  else if 0 < point ∧ point ≤ 16 then
    if d.exponent < 0 then
      ds.take point.toNat ++ '.' :: ds.drop point.toNat
    else
      ds ++ List.replicate d.exponent.toNat '0' ++ ['.', '0']
  else if -5 < point ∧ point ≤ 0 then
    ['0', '.'] ++ List.replicate (-point).toNat '0' ++ ds
  else
    match ds with
    | [] => []
    | first :: rest =>
      first :: (if rest.isEmpty then [] else '.' :: rest) ++ 'e' :: exponentText (point - 1)

/-- The text of a double. -/
def Binary64.text (x : Binary64) : List Char :=
  (if x.negative then ['-'] else []) ++ (shortest x).text

end DocLint.Decimal
