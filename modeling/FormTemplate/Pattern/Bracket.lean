import FormTemplate.Pattern.Escape

/-!
# Bracket — sets of characters between brackets

* Hyphens right after the bracket are literal, and so is a closing bracket that comes first.
* Items are characters, ranges, escapes, POSIX classes and nested brackets.
* `&&`, `--` and `~~` combine everything before them with the items after them.

`Bracket.read?` gives the set with the number of levels that its items nest.
-/

namespace FormTemplate
namespace Pattern

/-- A set and how deep its notation nests. -/
structure NestedSet where
  set : Unicode.CharSet
  depth : Nat

/-- The items read since the bracket or the last operator. -/
structure Items where
  set : Unicode.CharSet := Unicode.CharSet.none
  count : Nat := 0
  depth : Nat := 0

inductive SetOperator where
  | inter
  | diff
  | symmDiff
  deriving DecidableEq

namespace SetOperator

def apply : SetOperator → Unicode.CharSet → Unicode.CharSet → Unicode.CharSet
  | inter => Unicode.CharSet.inter
  | diff => Unicode.CharSet.diff
  | symmDiff => Unicode.CharSet.symmDiff

/-- An operator, which is a sign written twice. -/
def read? : List Char → Option (SetOperator × List Char)
  | '&' :: '&' :: t => some (inter, t)
  | '-' :: '-' :: t => some (diff, t)
  | '~' :: '~' :: t => some (symmDiff, t)
  | _ => none

end SetOperator

namespace Items

def add (s : Unicode.CharSet) (depth : Nat) (items : Items) : Items :=
  ⟨items.set.union s, items.count + 1, max items.depth depth⟩

/-- Two items or more are a level of their own. -/
def nested (items : Items) : NestedSet :=
  ⟨items.set, if items.count ≤ 1 then items.depth else items.depth + 1⟩

end Items

/-- Completes the operation whose left side is waiting. -/
def combine (f : Flags) (left : Option (SetOperator × NestedSet)) (right : NestedSet) :
    NestedSet :=
  match left with
  | none => right
  | some (op, l) => ⟨op.apply (f.fold l.set) (f.fold right.set), max l.depth right.depth + 1⟩

/-! ## Items -/

def posixClass? : String → Option Unicode.CharSet
  | "alnum" => some ⟨[⟨0x30, 0x39⟩, ⟨0x41, 0x5A⟩, ⟨0x61, 0x7A⟩]⟩
  | "alpha" => some ⟨[⟨0x41, 0x5A⟩, ⟨0x61, 0x7A⟩]⟩
  | "ascii" => some ⟨[⟨0x00, 0x7F⟩]⟩
  | "blank" => some ⟨[⟨0x09, 0x09⟩, ⟨0x20, 0x20⟩]⟩
  | "cntrl" => some ⟨[⟨0x00, 0x1F⟩, ⟨0x7F, 0x7F⟩]⟩
  | "digit" => some ⟨[⟨0x30, 0x39⟩]⟩
  | "graph" => some ⟨[⟨0x21, 0x7E⟩]⟩
  | "lower" => some ⟨[⟨0x61, 0x7A⟩]⟩
  | "print" => some ⟨[⟨0x20, 0x7E⟩]⟩
  | "punct" => some ⟨[⟨0x21, 0x2F⟩, ⟨0x3A, 0x40⟩, ⟨0x5B, 0x60⟩, ⟨0x7B, 0x7E⟩]⟩
  | "space" => some ⟨[⟨0x09, 0x0D⟩, ⟨0x20, 0x20⟩]⟩
  | "upper" => some ⟨[⟨0x41, 0x5A⟩]⟩
  | "word" => some ⟨[⟨0x30, 0x39⟩, ⟨0x41, 0x5A⟩, ⟨0x5F, 0x5F⟩, ⟨0x61, 0x7A⟩]⟩
  | "xdigit" => some ⟨[⟨0x30, 0x39⟩, ⟨0x41, 0x46⟩, ⟨0x61, 0x66⟩]⟩
  | _ => none

/-- A POSIX class after its opening bracket, and whether it is negated.  Anything else that starts
the same way is a nested bracket. -/
def posix? : List Char → Option (Bool × Unicode.CharSet × List Char)
  | ':' :: '^' :: t => named true t
  | ':' :: t => named false t
  | _ => none
where
  named (negated : Bool) (t : List Char) : Option (Bool × Unicode.CharSet × List Char) :=
    match t.dropWhile fun c => c != ':' with
    | ':' :: ']' :: rest =>
      (posixClass? (String.ofList (t.takeWhile fun c => c != ':'))).map fun s =>
        (negated, s, rest)
    | _ => none

/-- The character after a hyphen that decides whether the hyphen makes a range.  In a verbose
pattern blanks are passed over, and one number sign. -/
def peekAfterHyphen (f : Flags) (t : List Char) : Option Char :=
  if f.verbose then
    let rest :=
      match Text.trimStart t with
      | '#' :: u => Text.trimStart u
      | u => u
    rest.head?.or t.head?
  else t.head?

/-- A literal that a set can hold; without Unicode only ASCII characters are literals of sets. -/
def literalItem? (f : Flags) (c : Char) : Option Char :=
  if f.unicode || c.toNat < 0x80 then some c else none

/-- The end of a range and the text after it. -/
def rangeEnd? (f : Flags) : List Char → Option (Char × List Char)
  | [] => none
  | '\\' :: t =>
    match escape? f t with
    | some (.literal c, rest) => (literalItem? f c).map fun c => (c, rest)
    | _ => none
  | c :: t => (literalItem? f c).map fun c => (c, t)

/-- A single character, or the range that it starts. -/
def charOrRange? (f : Flags) (lo : Char) (t : List Char) :
    Option (Unicode.CharSet × List Char) :=
  (literalItem? f lo).bind fun lo =>
    match f.skip t with
    | [] => none
    | '-' :: t =>
      let next := peekAfterHyphen f t
      if next == some ']' || next == some '-' then some (.singleton lo, '-' :: t)
      else
        (rangeEnd? f (f.skip t)).bind fun (hi, rest) =>
          if lo ≤ hi then some (.range lo hi, rest) else none
    | t => some (.singleton lo, t)

/-- A set cannot start a range. -/
def setItem? (f : Flags) (s : Unicode.CharSet) (t : List Char) :
    Option (Unicode.CharSet × List Char) :=
  match f.skip t with
  | [] => none
  | '-' :: t =>
    let next := peekAfterHyphen f t
    if next == some ']' || next == some '-' then some (s, '-' :: t) else none
  | t => some (s, t)

/-- An item that is not a bracket. -/
def item? (f : Flags) : List Char → Option (Unicode.CharSet × List Char)
  | [] => none
  | '\\' :: t =>
    match escape? f t with
    | some (.literal c, t) => charOrRange? f c t
    | some (.set s, t) => setItem? f s t
    | _ => none
  | c :: t => charOrRange? f c t

/-! ## Brackets -/

/-- The hyphens, or the closing bracket, that are literal at the start of a bracket. -/
def leading (f : Flags) : Nat → Items → List Char → Items × List Char
  | 0, items, t => (items, t)
  | fuel + 1, items, t =>
    match t with
    | '-' :: t => leading f fuel (items.add (.singleton '-') 0) (f.skip t)
    | ']' :: u =>
      if items.count = 0 then (items.add (.singleton ']') 0, f.skip u) else (items, t)
    | t => (items, t)

mutual

/-- The set of a bracket, after its opening sign, and the text after the closing one. -/
def bracket? (f : Flags) : Nat → List Char → Option (NestedSet × List Char)
  | 0, _ => none
  | fuel + 1, t =>
    let t := f.skip t
    let (negated, t) :=
      match t with
      | '^' :: t => (true, f.skip t)
      | t => (false, t)
    let (items, t) := leading f (t.length + 1) {} t
    (inside? f fuel none items t).bind fun (n, rest) =>
      (f.close? negated n.set).map fun s => (⟨s, n.depth + 1⟩, rest)

/-- The items of a bracket up to its closing sign. -/
def inside? (f : Flags) (fuel : Nat) (left : Option (SetOperator × NestedSet)) (items : Items)
    (t : List Char) : Option (NestedSet × List Char) :=
  match fuel with
  | 0 => none
  | fuel + 1 =>
    match f.skip t with
    | ']' :: rest => some (combine f left items.nested, rest)
    | '[' :: t =>
      match posix? t with
      | some (negated, s, rest) =>
        (f.close? negated s).bind fun s => inside? f fuel left (items.add s 0) rest
      | none =>
        (bracket? f fuel t).bind fun (n, rest) =>
          inside? f fuel left (items.add n.set n.depth) rest
    | t =>
      match SetOperator.read? t with
      | some (op, rest) => inside? f fuel (some (op, combine f left items.nested)) {} rest
      | none =>
        (item? f t).bind fun (s, rest) => inside? f fuel left (items.add s 0) rest

end

end Pattern
end FormTemplate
