import FormTemplate.Text.Split

/-!
# FieldType — the kinds of form fields

Each kind has an identifier.  `ofToken?` reads an identifier in any ASCII case and with blanks
around it, `ofId?` only as it is spelled.
-/

namespace FormTemplate

inductive FieldType where
  /-- A single line of free text. -/
  | text
  | number
  | date
  /-- One of a list of choices. -/
  | select
  /-- Several lines of free text. -/
  | textarea
  /-- Yes or no. -/
  | boolean
  deriving DecidableEq

namespace FieldType

def all : List FieldType :=
  [text, number, date, select, textarea, boolean]

def id : FieldType → String
  | text => "text"
  | number => "number"
  | date => "date"
  | select => "select"
  | textarea => "textarea"
  | boolean => "boolean"

def ofId? (s : String) : Option FieldType :=
  all.find? fun k => k.id == s

def ofToken? (t : List Char) : Option FieldType :=
  all.find? fun k => Text.sameToken k.id.toList (Text.trim t)

/-- The hint in an empty field: choices and dates are chosen, everything else is typed in. -/
def hint (label : String) : FieldType → String
  | select => "请选择" ++ label
  | date => "请选择" ++ label
  | _ => "请输入" ++ label

end FieldType
end FormTemplate
