import FormTemplate.Catalog
import FormTemplate.Check

/-!
# Report — a value set against a catalog

* `Report` — the errors and warnings for a value set;
* `Catalog.validate` — an error for every variable whose value is rejected, in catalog order, and a
  warning for every value of an unknown variable, in the order of names.
-/

namespace FormTemplate

/-- An error and the variable it was found for. -/
structure FieldError where
  field : String
  error : CheckError
  deriving DecidableEq

namespace FieldError

def text (e : FieldError) : String :=
  e.field ++ ": " ++ e.error.message

end FieldError

structure Report where
  valid : Bool
  errors : List FieldError
  warnings : List String
  deriving DecidableEq

namespace Report

/-- A report without errors and warnings. -/
def success : Report := ⟨true, [], []⟩

/-- A report of nothing, which does not vouch for the values. -/
def blank : Report := ⟨false, [], []⟩

def addError (field : String) (e : CheckError) (r : Report) : Report :=
  { r with errors := r.errors ++ [⟨field, e⟩], valid := false }

def addWarning (text : String) (r : Report) : Report :=
  { r with warnings := r.warnings ++ [text] }

/-- The message of the first error of a field. -/
def messageFor (field : String) (r : Report) : Option String :=
  (r.errors.find? fun e => e.field == field).map fun e => e.error.message

end Report

def unknownWarning (name : String) : String :=
  "value supplied for unknown variable '" ++ name ++ "'"

namespace Catalog

/-- Checks the value of one variable, null if there is none. -/
def checkInto (values : Values) (r : Report) (x : Variable) : Report :=
  match x.check (values[x.name]?.getD .null) with
  | some e => r.addError x.name e
  | none => r

def validate (c : Catalog) (values : Values) : Report :=
  let checked := c.entries.foldl (checkInto values) .success
  (values.keys.filter fun name => !c.contains name).foldl
    (fun r name => r.addWarning (unknownWarning name)) checked

end Catalog
end FormTemplate
