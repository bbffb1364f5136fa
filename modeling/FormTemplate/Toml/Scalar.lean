import FormTemplate.Text.Integer
import FormTemplate.Toml.Basic
import FormTemplate.Unicode.CharSet

/-!
# Scalar — numbers, truth values and times of TOML documents

`Toml.scalar?` reads a word.  Integers are decimal, hexadecimal, octal or binary, with single
underscores between digits; a decimal number has no superfluous zero in front.  Times are dates,
times of day, or both with or without an offset.
-/

namespace FormTemplate
namespace Toml

/-! ## Numbers -/

/-- Digits without the single underscores between them. -/
def plainDigits? (isDigit : Char → Bool) : List Char → Option (List Char)
  | [] => none
  | [c] => if isDigit c then some [c] else none
  | c :: '_' :: t => if isDigit c then (plainDigits? isDigit t).map (c :: ·) else none
  | c :: t => if isDigit c then (plainDigits? isDigit t).map (c :: ·) else none

def digitOf (c : Char) : Nat :=
  (Unicode.hexDigit? c).getD 0

/-- An integer after a mark such as `0x` that gives its base. -/
def based? (base : Nat) (t : List Char) : Option Nat :=
  (plainDigits? (fun c => (Unicode.hexDigit? c).any fun d => d < base) t).map fun ds =>
    ds.foldl (fun n c => base * n + digitOf c) 0

/-- Decimal digits without a superfluous zero in front. -/
def decimal? (t : List Char) : Option Nat :=
  (plainDigits? Text.isDigit t).bind fun ds =>
    if ds.head? = some '0' ∧ 1 < ds.length then none else some (Text.decimalValue 0 ds)

def unsigned : List Char → Bool × List Char
  | '-' :: t => (true, t)
  | '+' :: t => (false, t)
  | t => (false, t)

/-- An integer of at most 128 bits. -/
def integer? (t : List Char) : Option Int :=
  let value? : Option Int :=
    match t with
    | '0' :: 'x' :: t => (based? 16 t).map Int.ofNat
    | '0' :: 'o' :: t => (based? 8 t).map Int.ofNat
    | '0' :: 'b' :: t => (based? 2 t).map Int.ofNat
    | t =>
      let (negative, t) := unsigned t
      (decimal? t).map fun n => if negative then -(n : Int) else n
  value?.filter Text.fitsDoubleWord

/-- Whether a text is the exponent of a float, after its letter. -/
def isExponent (t : List Char) : Bool :=
  (plainDigits? Text.isDigit (unsigned t).2).isSome

/-- Whether a text is a float: a decimal number with a fraction, an exponent or both. -/
def isReal (t : List Char) : Bool :=
  let t := (unsigned t).2
  let isMark (c : Char) : Bool := c == '.' || c == 'e' || c == 'E'
  if t = ['i', 'n', 'f'] || t = ['n', 'a', 'n'] then true
  else if (decimal? (t.takeWhile fun c => !isMark c)).isNone then false
  else
    match t.dropWhile fun c => !isMark c with
    | '.' :: t =>
      let isLetter (c : Char) : Bool := c == 'e' || c == 'E'
      (plainDigits? Text.isDigit (t.takeWhile fun c => !isLetter c)).isSome &&
        match t.dropWhile fun c => !isLetter c with
        | [] => true
        | _ :: t => isExponent t
    | _ :: t => isExponent t
    | [] => false

/-! ## Times -/

/-- A number of exactly `n` digits between two limits, and the text after it. -/
def field? (n lo hi : Nat) (t : List Char) : Option (Nat × List Char) :=
  if t.length < n then none
  else (Text.readNat? (t.take n)).bind fun v =>
    if lo ≤ v ∧ v ≤ hi then some (v, t.drop n) else none

def daysIn (year month : Nat) : Nat :=
  if month = 2 then
    if year % 4 = 0 ∧ (year % 100 ≠ 0 ∨ year % 400 = 0) then 29 else 28
  else if month = 4 ∨ month = 6 ∨ month = 9 ∨ month = 11 then 30
  else 31

/-- The text after a date. -/
def date? (t : List Char) : Option (List Char) :=
  (field? 4 0 9999 t).bind fun
    | (year, '-' :: t) =>
      (field? 2 1 12 t).bind fun
        | (month, '-' :: t) => (field? 2 1 (daysIn year month) t).map Prod.snd
        | _ => none
    | _ => none

/-- The text after the fraction of a second, if there is one. -/
def fraction? : List Char → Option (List Char)
  | '.' :: t =>
    if (t.takeWhile Text.isDigit).isEmpty then none else some (t.dropWhile Text.isDigit)
  | t => some t

/-- The text after a time of day, whose seconds may be left out. -/
def timeOfDay? (t : List Char) : Option (List Char) :=
  (field? 2 0 23 t).bind fun
    | (_, ':' :: t) =>
      (field? 2 0 59 t).bind fun
        | (_, ':' :: t) => (field? 2 0 60 t).bind fun (_, t) => fraction? t
        | (_, t) => some t
    | _ => none

/-- Whether a text is an offset from universal time, or empty. -/
def isOffset : List Char → Bool
  | [] => true
  | [c] => c == 'Z' || c == 'z'
  | c :: t =>
    (c == '+' || c == '-') &&
      ((field? 2 0 23 t).any fun
        | (_, ':' :: t) => (field? 2 0 59 t).any fun (_, t) => t.isEmpty
        | _ => false)

def isMoment (t : List Char) : Bool :=
  (timeOfDay? t).any List.isEmpty ||
    (date? t).any fun
      | [] => true
      | c :: t => (c == 'T' || c == 't' || c == ' ') && (timeOfDay? t).any isOffset

/-! ## Words -/

def isWordChar (c : Char) : Bool :=
  c.isAlphanum || c == '_' || c == '-' || c == '+' || c == '.' || c == ':'

/-- A word at the front of a text and what follows; a date takes a time of day after a blank. -/
def word (t : List Char) : List Char × List Char :=
  let w := t.takeWhile isWordChar
  match t.dropWhile isWordChar with
  | ' ' :: c :: rest =>
    if (date? w).any List.isEmpty && Text.isDigit c then
      (w ++ ' ' :: (c :: rest).takeWhile isWordChar, (c :: rest).dropWhile isWordChar)
    else (w, ' ' :: c :: rest)
  | rest => (w, rest)

def scalarOf? (w : List Char) : Option Toml :=
  if w = ['t', 'r', 'u', 'e'] then some (.bool true)
  else if w = ['f', 'a', 'l', 's', 'e'] then some (.bool false)
  else
    match integer? w with
    | some n => some (.integer n)
    | none => if isReal w then some .real else if isMoment w then some .moment else none

def scalar? (t : List Char) : Option (Toml × List Char) :=
  let (w, rest) := word t
  (scalarOf? w).map fun v => (v, rest)

end Toml
end FormTemplate
