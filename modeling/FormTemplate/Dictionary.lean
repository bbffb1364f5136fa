import Std.Data.ExtTreeMap
import FormTemplate.Value

/-!
# Dictionary — finite maps from names

A dictionary lists its entries in the order of their keys, and two dictionaries with the same
look-ups are equal.
-/

namespace FormTemplate

abbrev Dictionary (α : Type) := Std.ExtTreeMap String α

namespace Dictionary

/-- The dictionary of some entries; of several with one key the last counts. -/
def ofEntries {α : Type} (entries : List (String × α)) : Dictionary α :=
  entries.foldl (fun d e => d.insert e.1 e.2) ∅

/-- The first dictionary with the entries of the second, which win. -/
def override {α : Type} (d : Dictionary α) (entries : List (String × α)) : Dictionary α :=
  entries.foldl (fun d e => d.insert e.1 e.2) d

end Dictionary

/-- The values supplied for a form, keyed by variable name. -/
abbrev Values := Dictionary Value

end FormTemplate
