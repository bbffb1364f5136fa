import FormTemplate.Catalog
import FormTemplate.Pattern

/-!
# Diagnostic — rules that cannot work as written

A variable may have a pattern that is not usable, and bounds that exclude each other.  Both are
found without any values.
-/

namespace FormTemplate

inductive Diagnostic where
  /-- The pattern of a variable is not usable and is left out of checks. -/
  | invalidPattern (name pattern reason : String)
  /-- The lower bound of a variable is above the upper one. -/
  | invertedBounds (name : String) (min max : Int)
  deriving DecidableEq

namespace Diagnostic

def text : Diagnostic → String
  | invalidPattern name pattern reason =>
    "variable '" ++ name ++ "' has an invalid pattern '" ++ pattern ++ "': " ++ reason
  | invertedBounds name min max =>
    "variable '" ++ name ++ "' has min " ++ Text.showInt min ++ " greater than max " ++
      Text.showInt max

end Diagnostic

namespace Constraints

def lintPattern (name : String) (c : Constraints) : Option Diagnostic :=
  c.pattern.bind fun source =>
    match Pattern.compile source with
    | .ok _ => none
    | .error fault => some (.invalidPattern name source fault.message)

def lintBounds (name : String) (c : Constraints) : Option Diagnostic :=
  match c.min, c.max with
  | some min, some max => if max < min then some (.invertedBounds name min max) else none
  | _, _ => none

end Constraints

namespace Variable

def diagnostics (x : Variable) : List Diagnostic :=
  match x.validation with
  | none => []
  | some c => (c.lintPattern x.name).toList ++ (c.lintBounds x.name).toList

end Variable

namespace Catalog

/-- The diagnostics of all variables in catalog order. -/
def diagnostics (c : Catalog) : List Diagnostic :=
  c.entries.flatMap Variable.diagnostics

end Catalog
end FormTemplate
