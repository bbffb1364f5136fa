import FormTemplate.Catalog
import FormTemplate.Rendering
import FormTemplate.Text.Table

/-!
# Overview — a catalog as a table

One row to a variable, in catalog order: its name, label and type, whether it is required, its
choices, and its constraints with its default.  A line below the table counts the variables.
-/

namespace FormTemplate

/-- What a cell shows that has nothing to show. -/
def emptyCell : String := "-"

/-- Some texts with commas between them. -/
def listCell (ts : List String) : String :=
  if ts.isEmpty then emptyCell else Text.joinStrings ", " ts

namespace Constraints

def descriptions (c : Constraints) : List String :=
  (c.min.map fun n => "min=" ++ Text.showInt n).toList ++
    (c.max.map fun n => "max=" ++ Text.showInt n).toList ++
    (c.pattern.map fun p => "pattern=" ++ p).toList ++
    (c.message.map fun _ => "message").toList

end Constraints

namespace Variable

def ruleDescriptions (x : Variable) : List String :=
  (x.validation.map Constraints.descriptions).getD [] ++
    (x.default.map fun v => "default=" ++ String.ofList v.text).toList

def overviewRow (x : Variable) : List String :=
  [x.name, x.label, x.type.id, if x.required then "yes" else emptyCell, listCell x.options,
    listCell x.ruleDescriptions]

end Variable

namespace Catalog

def overviewHeader : List String :=
  ["Name", "Label", "Type", "Required", "Options", "Rules"]

def overview (c : Catalog) : String :=
  if c.isEmpty then "(no variables found)\n"
  else
    let cells (row : List String) : List Text.Cell := row.map String.toList
    let table := Text.table (cells overviewHeader)
      (c.entries.map fun x => cells x.overviewRow)
    String.ofList table ++ "\n\n-- " ++ Text.showInt c.size ++ " variables --\n"

end Catalog
end FormTemplate
