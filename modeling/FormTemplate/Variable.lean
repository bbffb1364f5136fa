import FormTemplate.Decimal.Reading
import FormTemplate.FieldType
import FormTemplate.Rule
import FormTemplate.Value

/-!
# Variable — one declared placeholder, ready to be a form field

* `Constraints` — the bounds, the pattern and the message that a value is checked with;
* `Variable` — a name with its label, type, choices, default and constraints;
* `Variable.applyRule`, `applyRules` — what rules do to a variable;
* `typedDefault` — the default that a text declares for a type.
-/

namespace FormTemplate

structure Constraints where
  min : Option Int := none
  max : Option Int := none
  /-- A pattern that the text form of a value contains a match of. -/
  pattern : Option String := none
  /-- Takes the place of the message for a failed bound or pattern. -/
  message : Option String := none
  deriving DecidableEq

namespace Constraints

def isEmpty (c : Constraints) : Bool :=
  c.min.isNone && c.max.isNone && c.pattern.isNone && c.message.isNone

end Constraints

structure Variable where
  name : String
  label : String
  type : FieldType
  required : Bool
  default : Option Value
  /-- The choices of a `select` field, and empty for every other type. -/
  options : List String
  /-- What an empty field shows. -/
  hint : String
  validation : Option Constraints

namespace Variable

/-- A variable without rules or choices.  Its label is its name when the given one is empty. -/
def new (name label : String) (type : FieldType) : Variable :=
  let label := if label.isEmpty then name else label
  { name, label, type, required := false, default := none, options := []
    hint := type.hint label, validation := none }

def isChoice (v : Variable) : Bool :=
  v.type == .select

def refreshHint (v : Variable) : Variable :=
  { v with hint := v.type.hint v.label }

def setType (type : FieldType) (v : Variable) : Variable :=
  { v with type }

/-! ## Rules -/

def constrain (f : Constraints → Constraints) (v : Variable) : Variable :=
  { v with validation := some (f (v.validation.getD {})) }

/-- Numbers and truth values are stored as such when the type and the text agree. -/
def typedDefault (type : FieldType) (raw : String) : Value :=
  match type with
  | .number =>
    match Text.readInt64? raw.toList with
    | some n => .number (.integer n)
    | none =>
      match Text.readReal? raw.toList with
      | some x => .number (.real x)
      | none => .string raw
  | .boolean =>
    if raw = "true" then .bool true else if raw = "false" then .bool false else .string raw
  | _ => .string raw

def applyRule (v : Variable) : Rule → Variable
  | .required => { v with required := true }
  | .min n => v.constrain fun c => { c with min := some n }
  | .max n => v.constrain fun c => { c with max := some n }
  | .pattern p => v.constrain fun c => { c with pattern := some p }
  | .message m => v.constrain fun c => { c with message := some m }
  | .default d => { v with default := some (typedDefault v.type d) }

/-- Applies the rules of a list in order, so that the last of a kind wins. -/
def applyRules (v : Variable) (t : List Char) : Variable :=
  (Rule.parseList t).foldl applyRule v

end Variable
end FormTemplate
