import FormTemplate.Text.Integer

/-!
# Rule — the rule lists of placeholders

A rule list such as `required,min=0,max=100` has tokens between commas.  Blank tokens, unknown
keys and malformed numbers are skipped.  Since tokens are cut at commas, no rule holds one.
-/

namespace FormTemplate

inductive Rule where
  | required
  | min (n : Int)
  | max (n : Int)
  | pattern (p : String)
  | message (m : String)
  | default (d : String)
  deriving DecidableEq

namespace Rule

/-- A rule of the form `key=value`.  A pattern is kept as it is written, other texts are trimmed. -/
def ofPair? (key value : List Char) : Option Rule :=
  let trimmed := Text.trim value
  match String.ofList key with
  | "min" => (Text.readInt64? trimmed).map min
  | "max" => (Text.readInt64? trimmed).map max
  | "pattern" => if value.isEmpty then none else some (pattern (String.ofList value))
  | "message" => if trimmed.isEmpty then none else some (message (String.ofList trimmed))
  | "default" => if trimmed.isEmpty then none else some (default (String.ofList trimmed))
  | _ => none

/-- The rule of a trimmed token. -/
def ofToken? (token : List Char) : Option Rule :=
  if token = "required".toList then some required
  else (Text.splitFirst ['='] token).bind fun (key, value) => ofPair? (Text.trim key) value

def parseList (t : List Char) : List Rule :=
  (Text.commaList t).filterMap ofToken?

end Rule
end FormTemplate
