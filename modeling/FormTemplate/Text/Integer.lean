import FormTemplate.Text.Split

/-!
# Integer — reading and printing signed 64-bit integers

An integer is an optional sign and at least one ASCII digit, nothing else.  A text whose value does
not fit a signed 64-bit word is not an integer.
-/

namespace FormTemplate
namespace Text

def digitValue (c : Char) : Nat :=
  c.toNat - '0'.toNat

def isDigit (c : Char) : Bool :=
  '0' ≤ c && c ≤ '9'

/-- The value of a row of decimal digits, read after `acc`. -/
def decimalValue (acc : Nat) (ds : List Char) : Nat :=
  ds.foldl (fun n c => 10 * n + digitValue c) acc

/-- The value of a text of at least one decimal digit and nothing else. -/
def readNat? (t : List Char) : Option Nat :=
  if !t.isEmpty && t.all isDigit then some (decimalValue 0 t) else none

def int64Min : Int := -9223372036854775808

def int64Max : Int := 9223372036854775807

def fitsInt64 (n : Int) : Bool :=
  int64Min ≤ n && n ≤ int64Max

/-- Whether an integer fits 128 bits, with or without a sign. -/
def fitsDoubleWord (n : Int) : Bool :=
  -170141183460469231731687303715884105728 ≤ n && n ≤ 340282366920938463463374607431768211455

/-- An optional sign, then digits, with a value that fits 64 bits. -/
def readInt64? (t : List Char) : Option Int :=
  let value? : Option Int :=
    match t with
    | '-' :: ds => (readNat? ds).map fun n => -(n : Int)
    | '+' :: ds => (readNat? ds).map fun n => (n : Int)
    | ds => (readNat? ds).map fun n => (n : Int)
  value?.filter fitsInt64

/-! ## Printing -/

/-- The decimal digits of a number, most significant first, without leading zeros. -/
def digits (n : Nat) : List Char :=
  go n (n + 1) []
where
  /-- Digits are taken from the least significant end, at most `fuel` of them. -/
  go : Nat → Nat → List Char → List Char
    | _, 0, acc => acc
    | n, fuel + 1, acc =>
      let acc := Char.ofNat ('0'.toNat + n % 10) :: acc
      if n < 10 then acc else go (n / 10) fuel acc

def showInt (n : Int) : String :=
  if n < 0 then String.ofList ('-' :: digits n.natAbs) else String.ofList (digits n.natAbs)

end Text
end FormTemplate
