import FormTemplate.Decimal.Binary64

/-!
# Reading — decimal text as a double

`readReal?` reads an optional sign, digits with at most one point among or around them, and an
optional exponent, and answers the double nearest to that value.  Texts of another form, the names
of infinities included, and values beyond the finite doubles read as nothing.
-/

namespace FormTemplate
namespace Text

/-- The value of the exponent part of a number, `0` when the text ends before it. -/
def readExponent? : List Char → Option Int
  | [] => some 0
  | c :: t =>
    if c = 'e' || c = 'E' then
      match t with
      | '-' :: ds => (readNat? ds).map fun n => -(n : Int)
      | '+' :: ds => (readNat? ds).map fun n => (n : Int)
      | ds => (readNat? ds).map fun n => (n : Int)
    else none

/-- The fraction digits after a point, if there is one, and the rest of the text. -/
def takeFraction : List Char → List Char × List Char
  | '.' :: t => (t.takeWhile isDigit, t.dropWhile isDigit)
  | t => ([], t)

def readUnsignedReal? (negative : Bool) (t : List Char) : Option Binary64 :=
  let whole := t.takeWhile isDigit
  let (fraction, rest) := takeFraction (t.dropWhile isDigit)
  if whole.isEmpty && fraction.isEmpty then none
  else
    (readExponent? rest).bind fun e =>
      Binary64.ofDecimal? negative (decimalValue 0 (whole ++ fraction)) (e - fraction.length)

def readReal? : List Char → Option Binary64
  | '-' :: t => readUnsignedReal? true t
  | '+' :: t => readUnsignedReal? false t
  | t => readUnsignedReal? false t

end Text
end FormTemplate
