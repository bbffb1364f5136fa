import FormTemplate.Decimal.Binary64

/-!
# Value — the data that fill a form

A value is null, a truth value, a number, a string, a list of values or an object.  The fields of an
object that was read are sorted by name, each name once; `setField` keeps them so.

`Values` is the set of values supplied for one form, keyed by variable name.
-/

namespace FormTemplate

/-- Integers keep their digits; all other numbers are doubles. -/
inductive Number where
  | integer (n : Int)
  | real (x : Binary64)
  deriving DecidableEq

namespace Number

def toBinary64 : Number → Binary64
  | integer n => Binary64.ofInt n
  | real x => x

end Number

inductive Value where
  | null
  | bool (b : Bool)
  | number (n : Number)
  | string (s : String)
  | array (items : List Value)
  | object (fields : List (String × Value))

namespace Value

/-- Sorted insertion, in place of an earlier field of the same name. -/
def setField (name : String) (v : Value) : List (String × Value) → List (String × Value)
  | [] => [(name, v)]
  | (k, w) :: fields =>
    if name < k then (name, v) :: (k, w) :: fields
    else if name = k then (name, v) :: fields
    else (k, w) :: setField name v fields

def field? (name : String) (fields : List (String × Value)) : Option Value :=
  fields.lookup name

end Value
end FormTemplate
