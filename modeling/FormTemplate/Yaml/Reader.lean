import FormTemplate.Decimal.Reading
import FormTemplate.Text.Integer
import FormTemplate.Value
import FormTemplate.Yaml.Node

/-!
# Reader — YAML documents as values

`Yaml.readMapping?` reads a stream of at most one document, which is a mapping.

* A plain scalar is null, a truth value, a number or else a string; a quoted one is a string.
* Integers are decimal, hexadecimal, octal or binary.  One that fits 128 bits but not 64 is refused,
  and a larger one is a float.  A decimal number with a superfluous zero in front is a string.
* Infinities and what is not a number become null.
* Keys are the texts of scalars, and of several pairs with one key the last counts.
* Tags of the core types ask for their type; a tag of an application is refused.
* Collections nest at most `maxDepth` levels.
-/

namespace FormTemplate
namespace Yaml

def maxDepth : Nat := 128

/-! ## Plain scalars -/

def isNull (s : String) : Bool :=
  s == "null" || s == "Null" || s == "NULL" || s == "~"

def bool? (s : String) : Option Bool :=
  if s == "true" || s == "True" || s == "TRUE" then some true
  else if s == "false" || s == "False" || s == "FALSE" then some false
  else none

/-- Digits of a base below 17 and nothing else. -/
def based? (base : Nat) (t : List Char) : Option Nat :=
  if t.isEmpty then none
  else
    t.foldlM
      (fun n c =>
        (Unicode.hexDigit? c).bind fun d => if d < base then some (base * n + d) else none)
      0

/-- Digits after a mark of their base, or decimal digits. -/
def marked? : List Char → Option Nat
  | '0' :: 'x' :: t => based? 16 t
  | '0' :: 'o' :: t => based? 8 t
  | '0' :: 'b' :: t => based? 2 t
  | t => based? 10 t

def withoutSign : List Char → List Char
  | '-' :: t => t
  | '+' :: t => t
  | t => t

/-- A superfluous zero and further digits. -/
def hasIdleZero (t : List Char) : Bool :=
  match withoutSign t with
  | '0' :: d :: t => (d :: t).all Text.isDigit
  | _ => false

/-- An integer of any size. -/
def integer? (t : List Char) : Option Int :=
  if hasIdleZero t then none
  else
    match t with
    | '-' :: t => (marked? t).map fun n => -(n : Int)
    | '+' :: t => (marked? t).map fun n => (n : Int)
    | t => (marked? t).map fun n => (n : Int)

/-- Whether an integer fits 64 bits, with or without a sign. -/
def fitsWord (n : Int) : Bool :=
  Text.int64Min ≤ n && n ≤ 18446744073709551615

def isSpecial (t : List Char) : Bool :=
  [".inf", ".Inf", ".INF", "+.inf", "+.Inf", "+.INF", "-.inf", "-.Inf", "-.INF", ".nan", ".NaN",
    ".NAN"].any fun s => s.toList = t

/-- A float; those that no number stands for become null. -/
def real? (t : List Char) : Option Value :=
  if isSpecial t then some .null
  else
    let u :=
      match t with
      | '+' :: u => if u.head?.any fun c => c == '+' || c == '-' then [] else u
      | u => u
    (Text.readReal? u).map fun x => .number (.real x)

/-- The value of a plain scalar. -/
def plainValue? (s : String) : Option Value :=
  let t := s.toList
  if t.isEmpty || isNull s then some .null
  else
    match bool? s with
    | some b => some (.bool b)
    | none =>
      match integer? t with
      | some n =>
        if fitsWord n then some (.number (.integer n))
        else if Text.fitsDoubleWord n then none
        else some ((real? t).getD (.string s))
      | none => some ((if hasIdleZero t then none else real? t).getD (.string s))

/-! ## Tags -/

def coreTag (name : String) : String :=
  "tag:yaml.org,2002:" ++ name

/-- Whether a tag belongs to an application. -/
def isOwnTag (tag : Option String) : Bool :=
  tag.any fun t => t.toList.head? == some '!'

def scalarValue? (tag : Option String) (plain : Bool) (s : String) : Option Value :=
  match tag with
  | none => if plain then plainValue? s else some (.string s)
  | some t =>
    if t == coreTag "bool" then (bool? s).map .bool
    else if t == coreTag "int" then
      (integer? s.toList).bind fun n => if fitsWord n then some (.number (.integer n)) else none
    else if t == coreTag "float" then real? s.toList
    else if t == coreTag "null" then if isNull s then some .null else none
    else if isOwnTag tag then none
    else some (.string s)

/-! ## Documents -/

def key? : Node → Option String
  | .scalar _ _ s => some s
  | _ => none

mutual

/-- The value of a node.  `depth` is the number of levels that may still be opened. -/
def toValue? (depth : Nat) : Node → Option Value
  | .scalar tag plain s => scalarValue? tag plain s
  | .sequence tag items =>
    match depth with
    | 0 => none
    | depth + 1 =>
      if isOwnTag tag then none else (itemValues? depth items).map .array
  | .mapping tag pairs =>
    match depth with
    | 0 => none
    | depth + 1 =>
      if isOwnTag tag then none
      else (pairValues? depth pairs).map fun ps =>
        .object (ps.foldl (fun fields (k, v) => Value.setField k v fields) [])

def itemValues? (depth : Nat) : List Node → Option (List Value)
  | [] => some []
  | n :: ns =>
    (toValue? depth n).bind fun v => (itemValues? depth ns).map (v :: ·)

def pairValues? (depth : Nat) : List (Node × Node) → Option (List (String × Value))
  | [] => some []
  | (k, n) :: ps =>
    (key? k).bind fun k =>
      (toValue? depth n).bind fun v => (pairValues? depth ps).map ((k, v) :: ·)

end

/-- The pairs of the mapping that a stream consists of; an empty stream has none. -/
def readMapping? (text : String) : Option (List (String × Value)) :=
  (documents? text.toList).bind fun
    | [] => some []
    | [.mapping _ pairs] => pairValues? (maxDepth - 1) pairs
    | [.scalar _ true s] => if s.isEmpty then some [] else none
    | _ => none

end Yaml
end FormTemplate
