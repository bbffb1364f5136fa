import FormTemplate.Catalog

/-!
# Collection — completing a value set without asking

`Catalog.collect` adds the defaults of the variables that have no value yet.  A required variable
with neither value nor default makes it fail; an optional one is left out.
-/

namespace FormTemplate

structure Collected where
  values : Values
  /-- The variables that were asked for; none, since nobody is asked. -/
  prompted : List String := []
  /-- The variables that took their default. -/
  defaulted : List String := []

/-- A required variable that has neither a value nor a default. -/
structure MissingRequired where
  name : String
  deriving DecidableEq

namespace MissingRequired

def message (e : MissingRequired) : String :=
  "missing required variable: " ++ e.name ++ "\n  Hint: use --var " ++ e.name ++
    "=\"...\" or remove --batch"

end MissingRequired

namespace Collected

/-- Adds the default of a variable unless it has a value. -/
def add (c : Collected) (x : Variable) : Except MissingRequired Collected :=
  if c.values.contains x.name then .ok c
  else
    match x.default with
    | some v =>
      .ok { c with values := c.values.insert x.name v, defaulted := c.defaulted ++ [x.name] }
    | none => if x.required then .error ⟨x.name⟩ else .ok c

end Collected

namespace Catalog

/-- The provided values with the defaults of the variables that have none. -/
def collect (c : Catalog) (provided : Values) : Except MissingRequired Collected :=
  c.entries.foldlM Collected.add { values := provided }

end Catalog
end FormTemplate
