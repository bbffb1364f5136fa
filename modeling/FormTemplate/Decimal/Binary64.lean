import FormTemplate.Text.Integer

/-!
# Binary64 — finite double-precision numbers

A finite double is a sign, a mantissa and a power of two.  This file defines

* `Binary64` and the integer `scaled`, by which two doubles compare;
* `Binary64.ofRatio?` — the double nearest to a ratio, halves going to the even mantissa, and
  nothing when the nearest double would be infinite;
* `Binary64.ofInt`, `Binary64.ofDecimal?` — the nearest doubles to integers and decimal numbers;
* `Binary64.mul?`, `Binary64.div?` — products and quotients rounded to doubles.

Everything is computed in exact natural-number arithmetic.
-/

namespace FormTemplate

/-- The number `±mantissa * 2 ^ exponent`.  The mantissa has at most 53 bits and the exponent is at
least -1074; a mantissa of fewer than 53 bits occurs only with the least exponent. -/
structure Binary64 where
  negative : Bool
  mantissa : Nat
  exponent : Int
  deriving DecidableEq

namespace Binary64

def minExponent : Int := -1074

def maxExponent : Int := 971

def zero : Binary64 := ⟨false, 0, minExponent⟩

/-- The number times `2 ^ 1074`, which is an integer. -/
def scaled (x : Binary64) : Int :=
  let n : Int := (x.mantissa * Nat.pow 2 (x.exponent - minExponent).toNat : Nat)
  if x.negative then -n else n

def lt (x y : Binary64) : Bool :=
  x.scaled < y.scaled

def neg (x : Binary64) : Binary64 :=
  { x with negative := !x.negative }

def isZero (x : Binary64) : Bool :=
  x.mantissa == 0

/-! ## Rounding -/

/-- The numerator and denominator of `num / den / 2 ^ e`. -/
def atExponent (num den : Nat) (e : Int) : Nat × Nat :=
  if 0 ≤ e then (num, den * Nat.pow 2 e.toNat) else (num * Nat.pow 2 (-e).toNat, den)

/-- The integer nearest to `n / d`, the even one of two equally near. -/
def roundHalfEven (n d : Nat) : Nat :=
  let q := n / d
  let r := n % d
  if 2 * r < d then q
  else if d < 2 * r then q + 1
  else if q % 2 = 0 then q else q + 1

/-- The exponent at which `num / den` has a mantissa of 53 bits, or the least exponent. -/
def exponentOf (num den : Nat) : Int :=
  let e : Int := (Nat.log2 num : Int) - (Nat.log2 den : Int) - 52
  let (n, d) := atExponent num den e
  max minExponent (if n / d < Nat.pow 2 52 then e - 1 else e)

/-- The double nearest to `num / den`, unless it would be infinite. -/
def ofRatio? (negative : Bool) (num den : Nat) : Option Binary64 :=
  if num = 0 then some ⟨negative, 0, minExponent⟩
  else
    let e := exponentOf num den
    let (n, d) := atExponent num den e
    let m := roundHalfEven n d
    let x : Binary64 :=
      if m = Nat.pow 2 53 then ⟨negative, Nat.pow 2 52, e + 1⟩ else ⟨negative, m, e⟩
    if x.exponent ≤ maxExponent then some x else none

/-- The double nearest to an integer; zero stands for integers out of range. -/
def ofInt (n : Int) : Binary64 :=
  (ofRatio? (n < 0) n.natAbs 1).getD zero

/-- The double nearest to `coefficient * 10 ^ exponent`.  Coefficients far out of range are settled
by their number of digits alone. -/
def ofDecimal? (negative : Bool) (coefficient : Nat) (exponent : Int) : Option Binary64 :=
  let size : Int := (Text.digits coefficient).length + exponent
  if coefficient = 0 || size < -400 then some ⟨negative, 0, minExponent⟩
  else if 400 < size then none
  else if 0 ≤ exponent then ofRatio? negative (coefficient * Nat.pow 10 exponent.toNat) 1
  else ofRatio? negative coefficient (Nat.pow 10 (-exponent).toNat)

/-! ## Arithmetic -/

/-- The numerator and denominator of the absolute value. -/
def ratio (x : Binary64) : Nat × Nat :=
  if 0 ≤ x.exponent then (x.mantissa * Nat.pow 2 x.exponent.toNat, 1)
  else (x.mantissa, Nat.pow 2 (-x.exponent).toNat)

def mul? (x y : Binary64) : Option Binary64 :=
  let (a, b) := x.ratio
  let (c, d) := y.ratio
  ofRatio? (x.negative != y.negative) (a * c) (b * d)

/-- The quotient; the divisor is not zero. -/
def div? (x y : Binary64) : Option Binary64 :=
  let (a, b) := x.ratio
  let (c, d) := y.ratio
  ofRatio? (x.negative != y.negative) (a * d) (b * c)

end Binary64
end FormTemplate
