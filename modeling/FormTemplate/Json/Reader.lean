import FormTemplate.Text.Integer
import FormTemplate.Unicode.CharSet
import FormTemplate.Value

/-!
# Reader — JSON text as values

`Json.read?` reads one value with optional blanks around it.

* Blanks are space, tab, line feed and carriage return.
* Strings hold no bare control characters, and surrogate escapes come in pairs.
* Arrays and objects nest at most `maxDepth` levels.
* An integer that fits 64 bits stays an integer.  Every other number becomes a double: as many
  leading digits as fit an unsigned 64-bit word, rounded, then multiplied or divided by a rounded
  power of ten.  A number beyond the finite doubles is refused, and minus zero is a double.
* Of several fields with one name the last counts.
-/

namespace FormTemplate
namespace Json

def maxDepth : Nat := 127

def isBlank (c : Char) : Bool :=
  c == ' ' || c == '\n' || c == '\t' || c == '\r'

def skipBlanks (t : List Char) : List Char :=
  t.dropWhile isBlank

/-! ## Strings -/

def hex4? (a b c d : Char) : Option Nat :=
  Unicode.hexValue? 0 [a, b, c, d]

def isHighSurrogate (n : Nat) : Bool :=
  0xD800 ≤ n && n ≤ 0xDBFF

def isLowSurrogate (n : Nat) : Bool :=
  0xDC00 ≤ n && n ≤ 0xDFFF

/-- The character of a single-letter escape. -/
def unescape? : Char → Option Char
  | '"' => some '"'
  | '\\' => some '\\'
  | '/' => some '/'
  | 'b' => some '\x08'
  | 'f' => some '\x0c'
  | 'n' => some '\n'
  | 'r' => some '\r'
  | 't' => some '\t'
  | _ => none

/-- The characters up to the closing quote and the text after it. -/
def string? : List Char → Option (List Char × List Char)
  | [] => none
  | '"' :: t => some ([], t)
  | '\\' :: 'u' :: a :: b :: c :: d :: '\\' :: 'u' :: e :: f :: g :: h :: t =>
    (hex4? a b c d).bind fun n =>
      if isHighSurrogate n then
        (hex4? e f g h).bind fun m =>
          if isLowSurrogate m then
            (string? t).map fun (s, rest) =>
              (Char.ofNat (0x10000 + (n - 0xD800) * 0x400 + (m - 0xDC00)) :: s, rest)
          else none
      else if isLowSurrogate n then none
      else
        (string? ('\\' :: 'u' :: e :: f :: g :: h :: t)).map fun (s, rest) =>
          (Char.ofNat n :: s, rest)
  | '\\' :: 'u' :: a :: b :: c :: d :: t =>
    (hex4? a b c d).bind fun n =>
      if isHighSurrogate n || isLowSurrogate n then none
      else (string? t).map fun (s, rest) => (Char.ofNat n :: s, rest)
  | '\\' :: e :: t =>
    (unescape? e).bind fun c => (string? t).map fun (s, rest) => (c :: s, rest)
  | c :: t =>
    if c.toNat < 0x20 || c = '\\' then none
    else (string? t).map fun (s, rest) => (c :: s, rest)

/-! ## Numbers -/

def maxWord : Nat := 18446744073709551615

/-- Reads digits after `acc` while the value fits a word: the value and the digits left over. -/
def absorb (acc : Nat) : List Char → Nat × List Char
  | [] => (acc, [])
  | d :: ds =>
    let n := 10 * acc + Text.digitValue d
    if maxWord < n then (acc, d :: ds) else absorb n ds

/-- The double of a nonnegative double times a power of ten, by divisions of at most `10 ^ 308`. -/
def scale? (x : Binary64) (exponent : Int) : Nat → Option Binary64
  | 0 => some x
  | fuel + 1 =>
    if exponent.natAbs ≤ 308 then
      (Binary64.ofDecimal? false 1 exponent.natAbs).bind fun p =>
        if 0 ≤ exponent then x.mul? p else x.div? p
    else if x.isZero then some x
    else if 0 ≤ exponent then none
    else
      ((Binary64.ofDecimal? false 1 308).bind x.div?).bind fun y => scale? y (exponent + 308) fuel

/-- The double of a word times a power of ten, with a sign. -/
def realOf? (negative : Bool) (word : Nat) (exponent : Int) : Option Number :=
  (scale? (Binary64.ofInt word) exponent 4).map fun x =>
    .real (if negative then x.neg else x)

/-- The value of an exponent part, if there is one, and the text after it. -/
def exponentPart? : List Char → Option (Option Int × List Char)
  | c :: t =>
    if c = 'e' || c = 'E' then
      let (negative, ds) :=
        match t with
        | '-' :: ds => (true, ds)
        | '+' :: ds => (false, ds)
        | ds => (false, ds)
      (Text.readNat? (ds.takeWhile Text.isDigit)).map fun n =>
        (some (if negative then -(n : Int) else n), ds.dropWhile Text.isDigit)
    else some (none, c :: t)
  | [] => some (none, [])

/-- The digits after a point, if there is one, and the text after them. -/
def fractionPart? : List Char → Option (Option (List Char) × List Char)
  | '.' :: t =>
    let ds := t.takeWhile Text.isDigit
    if ds.isEmpty then none else some (some ds, t.dropWhile Text.isDigit)
  | t => some (none, t)

def integerOf (negative : Bool) (word : Nat) : Option Number :=
  if negative then
    if word = 0 || 9223372036854775808 < word then realOf? true word 0
    else some (.integer (-(word : Int)))
  else some (.integer word)

/-- The number of its digit rows. -/
def numberOf? (negative : Bool) (whole : List Char) (fraction : Option (List Char))
    (exponent : Option Int) : Option Number :=
  let (word, dropped) := absorb 0 whole
  match fraction, exponent, dropped with
  | none, none, [] => integerOf negative word
  | fraction, exponent, dropped =>
    let ds := fraction.getD []
    let (word, left) := absorb word ds
    realOf? negative word
      (dropped.length - (ds.length - left.length : Nat) + exponent.getD 0)

/-- A number that does not start with a superfluous zero, and the text after it. -/
def number? (negative : Bool) (t : List Char) : Option (Value × List Char) :=
  let whole := t.takeWhile Text.isDigit
  if whole.isEmpty || (whole.head? == some '0' && 1 < whole.length) then none
  else
    (fractionPart? (t.dropWhile Text.isDigit)).bind fun (fraction, t) =>
      (exponentPart? t).bind fun (exponent, rest) =>
        (numberOf? negative whole fraction exponent).map fun n => (.number n, rest)

/-! ## Values -/

def literal? (word : String) (v : Value) (t : List Char) : Option (Value × List Char) :=
  (Text.dropPrefix? word.toList t).map fun rest => (v, rest)

mutual

/-- A value at the front of a text and the text after it.  `depth` is the number of levels that may
still be opened. -/
def value? (depth : Nat) : Nat → List Char → Option (Value × List Char)
  | 0, _ => none
  | fuel + 1, t =>
    match skipBlanks t with
    | '"' :: t => (string? t).map fun (s, rest) => (.string (String.ofList s), rest)
    | '[' :: t =>
      match depth with
      | 0 => none
      | depth + 1 =>
        match skipBlanks t with
        | ']' :: rest => some (.array [], rest)
        | t => (items? depth fuel t).map fun (vs, rest) => (.array vs, rest)
    | '{' :: t =>
      match depth with
      | 0 => none
      | depth + 1 =>
        match skipBlanks t with
        | '}' :: rest => some (.object [], rest)
        | t => (fields? depth [] fuel t).map fun (fs, rest) => (.object fs, rest)
    | 'n' :: t => literal? "ull" .null t
    | 't' :: t => literal? "rue" (.bool true) t
    | 'f' :: t => literal? "alse" (.bool false) t
    | '-' :: t => number? true t
    | t => number? false t

/-- The items of an array, up to its closing bracket. -/
def items? (depth : Nat) : Nat → List Char → Option (List Value × List Char)
  | 0, _ => none
  | fuel + 1, t =>
    (value? depth fuel t).bind fun (v, t) =>
      match skipBlanks t with
      | ',' :: t => (items? depth fuel t).map fun (vs, rest) => (v :: vs, rest)
      | ']' :: rest => some ([v], rest)
      | _ => none

/-- The fields of an object after those of `acc`, up to its closing brace. -/
def fields? (depth : Nat) (acc : List (String × Value)) :
    Nat → List Char → Option (List (String × Value) × List Char)
  | 0, _ => none
  | fuel + 1, t =>
    match skipBlanks t with
    | '"' :: t =>
      (string? t).bind fun (k, t) =>
        match skipBlanks t with
        | ':' :: t =>
          (value? depth fuel t).bind fun (v, t) =>
            let acc := Value.setField (String.ofList k) v acc
            match skipBlanks t with
            | ',' :: t => fields? depth acc fuel t
            | '}' :: rest => some (acc, rest)
            | _ => none
        | _ => none
    | _ => none

end

/-- The value that a whole text stands for. -/
def read? (text : String) : Option Value :=
  let t := text.toList
  (value? maxDepth (2 * t.length + 2) t).bind fun (v, rest) =>
    if (skipBlanks rest).isEmpty then some v else none

end Json
end FormTemplate
