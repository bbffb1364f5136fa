import FormTemplate.Text.Integer
import FormTemplate.Value

/-!
# Record — JSON values as records of named fields

A record is an object, or an array with the fields in their order, of which the last ones may be
missing.  The readers of fields are strict: a value of another kind is no value of the field.
-/

namespace FormTemplate
namespace Json

/-- The fields of a record in the order of their names; a field that is missing has no value. -/
def record? (names : List String) : Value → Option (List (Option Value))
  | .object fields => some (names.map fun name => Value.field? name fields)
  | .array items =>
    if items.length ≤ names.length then
      some ((items.map some) ++ List.replicate (names.length - items.length) none)
    else none
  | _ => none

def asString? : Value → Option String
  | .string s => some s
  | _ => none

def asBool? : Value → Option Bool
  | .bool b => some b
  | _ => none

def asInt64? : Value → Option Int
  | .number (.integer n) => if Text.fitsInt64 n then some n else none
  | _ => none

/-- An array whose items can all be read. -/
def asList? {α : Type} (item? : Value → Option α) : Value → Option (List α)
  | .array items => items.mapM item?
  | _ => none

/-- A field that may be missing or null. -/
def optional? {α : Type} (read? : Value → Option α) : Option Value → Option (Option α)
  | none => some none
  | some .null => some none
  | some v => (read? v).map some

/-- A field that has a fallback when it is missing. -/
def defaulted? {α : Type} (read? : Value → Option α) (fallback : α) : Option Value → Option α
  | none => some fallback
  | some v => read? v

end Json
end FormTemplate
