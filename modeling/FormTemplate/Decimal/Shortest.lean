import FormTemplate.Decimal.Binary64

/-!
# Shortest — the shortest decimal text that reads back

A double is written with the fewest digits whose value rounds to it, and of several such digit rows
with the one nearest to it.  `Binary64.shortest` finds the digits; `Binary64.text` lays them out.

Numbers with a scientific exponent from -5 to 15 are written positionally and keep a fraction digit,
all others as `d.ddde±x`.
-/

namespace FormTemplate
namespace Binary64

/-- The reals that round to a double: its ends as numerators over one denominator. -/
structure Interval where
  low : Nat
  value : Nat
  high : Nat
  den : Nat
  /-- Whether the ends themselves round to the double. -/
  closed : Bool

/-- Below a power of two the doubles lie twice as close together as above it. -/
def interval (x : Binary64) : Interval :=
  let (num, den) := x.ratio
  let (half, _) := ratio ⟨false, 1, x.exponent⟩
  let scale := 4
  let below := if x.mantissa = Nat.pow 2 52 && minExponent < x.exponent then 1 else 2
  ⟨scale * num - below * half, scale * num, scale * num + 2 * half, scale * den,
    x.mantissa % 2 == 0⟩

namespace Interval

/-- Whether `n * 10 ^ k` rounds to the double. -/
def admits (i : Interval) (n : Nat) (k : Int) : Bool :=
  let (a, b) := if 0 ≤ k then (n * Nat.pow 10 k.toNat, 1) else (n, Nat.pow 10 (-k).toNat)
  let p := a * i.den
  if i.closed then i.low * b ≤ p && p ≤ i.high * b else i.low * b < p && p < i.high * b

/-- The greatest `n` with `n * 10 ^ k` not above the value, and whether the value lies nearer to it
than to the next point of the grid. -/
def below (i : Interval) (k : Int) : Nat × Bool :=
  let (a, b) := if 0 ≤ k then (i.value, i.den * Nat.pow 10 k.toNat)
    else (i.value * Nat.pow 10 (-k).toNat, i.den)
  let n := a / b
  let twice := 2 * (a % b)
  (n, twice < b || (twice == b && n % 2 == 0))

/-- The nearest point of the grid of multiples of `10 ^ k` that rounds to the double. -/
def nearest? (i : Interval) (k : Int) : Option Nat :=
  let (n, down) := i.below k
  let lower := i.admits n k
  let upper := i.admits (n + 1) k
  if lower && upper then some (if down then n else n + 1)
  else if lower then some n
  else if upper then some (n + 1)
  else none

/-- The decimal exponent of the leading digit of the value. -/
def leadingExponent (i : Interval) : Int :=
  (Text.digits (i.value * Nat.pow 10 340 / i.den)).length - 341

/-- The first grid with a hit, from one digit on; `fuel` is the number of grids still to try. -/
def search (i : Interval) (k : Int) : Nat → Nat × Int
  | 0 => ((i.below k).1, k)
  | fuel + 1 =>
    match i.nearest? k with
    | some n => (n, k)
    | none => i.search (k - 1) fuel

end Interval

/-- The digits of the shortest decimal that reads back and the exponent of its last digit. -/
def shortest (x : Binary64) : Nat × Int :=
  let i := x.interval
  i.search i.leadingExponent 17

/-! ## Layout -/

/-- A row of digits with a point after the first, none when it has one digit. -/
def pointed : List Char → List Char
  | [] => []
  | [d] => [d]
  | d :: ds => d :: '.' :: ds

def layout (ds : List Char) (last : Int) : List Char :=
  let size : Int := ds.length
  let leading := last + size - 1
  if leading < -5 || 15 < leading then
    pointed ds ++ 'e' :: (if leading < 0 then '-' else '+') :: Text.digits leading.natAbs
  else if 0 ≤ last then ds ++ List.replicate last.toNat '0' ++ ['.', '0']
  else if 0 ≤ leading then ds.take (leading + 1).toNat ++ '.' :: ds.drop (leading + 1).toNat
  else '0' :: '.' :: List.replicate (-leading - 1).toNat '0' ++ ds

def text (x : Binary64) : String :=
  let sign := if x.negative then ['-'] else []
  if x.isZero then String.ofList (sign ++ ['0', '.', '0'])
  else
    let (n, last) := x.shortest
    let ds := Text.digits n
    let zeros := (ds.reverse.takeWhile (· == '0')).length
    String.ofList (sign ++ layout (ds.take (ds.length - zeros)) (last + zeros))

end Binary64
end FormTemplate
