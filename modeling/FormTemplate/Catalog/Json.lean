import FormTemplate.Catalog
import FormTemplate.Variable.Json

/-!
# Json — catalogs as JSON

A catalog is written as its template text, the list of its variables, and an object that has the
same variables under their names.
-/

namespace FormTemplate
namespace Catalog

def toJson (c : Catalog) : Value :=
  .object
    [("content", .string c.content),
     ("variables", .array (c.entries.map Variable.toJson)),
     ("variableMap", .object (c.entries.map fun x => (x.name, x.toJson)))]

end Catalog
end FormTemplate
