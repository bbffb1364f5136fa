import FormTemplate.Toml.Basic

/-!
# Record — TOML values as records of named fields

A record is a table, of which only the named fields count, or an array with the fields in their
order.  A time is a record without any of them.  The readers of fields are strict: a value of
another kind is no value of the field.
-/

namespace FormTemplate
namespace Toml

/-- The fields of a table in the order of their names; a field that is missing has no value. -/
def fields (names : List String) (entries : List (String × Toml)) : List (Option Toml) :=
  names.map fun name => entries.lookup name

def record? (names : List String) : Toml → Option (List (Option Toml))
  | .table entries => some (fields names entries)
  | .array items =>
    some ((items.take names.length).map some ++
      List.replicate (names.length - items.length) none)
  | .moment => some (names.map fun _ => none)
  | _ => none

def asString? : Toml → Option String
  | .string s => some s
  | _ => none

def asBool? : Toml → Option Bool
  | .bool b => some b
  | _ => none

/-- An integer that fits an unsigned word of 32 bits. -/
def asWord32? : Toml → Option Nat
  | .integer n => if 0 ≤ n ∧ n < 4294967296 then some n.toNat else none
  | _ => none

/-- An array whose items can all be read. -/
def asList? {α : Type} (item? : Toml → Option α) : Toml → Option (List α)
  | .array items => items.mapM item?
  | _ => none

/-- A table whose values can all be read. -/
def asMap? {α : Type} (value? : Toml → Option α) : Toml → Option (List (String × α))
  | .table entries => entries.mapM fun (key, v) => (value? v).map fun x => (key, x)
  | _ => none

/-- A field that may be missing. -/
def optional? {α : Type} (read? : Toml → Option α) : Option Toml → Option (Option α)
  | none => some none
  | some v => (read? v).map some

/-- A field that has a fallback when it is missing. -/
def defaulted? {α : Type} (read? : Toml → Option α) (fallback : α) : Option Toml → Option α
  | none => some fallback
  | some v => read? v

end Toml
end FormTemplate
