import FormTemplate.Dictionary
import FormTemplate.Expression
import FormTemplate.Json.Printer

/-!
# Rendering — putting values in the place of placeholders

* `Value.text` — the text that a value is inserted as: strings as they are, numbers and truth values
  as JSON, null as nothing, the items of an array with commas between them, objects as compact JSON;
* `render` — a template with the placeholders of known names replaced.

The pieces of a template are replaced one by one, so inserted text is not scanned again, and a
placeholder without a value stays as it is written.
-/

namespace FormTemplate

namespace Value

mutual

def text : Value → List Char
  | .null => []
  | .string s => s.toList
  | .bool b => Json.bool b
  | .number n => Json.number n
  | .array items => itemsText items
  | .object fields => Json.value (.object fields)

def itemsText : List Value → List Char
  | [] => []
  | v :: vs => text v ++ moreItemsText vs

def moreItemsText : List Value → List Char
  | [] => []
  | v :: vs => ',' :: text v ++ moreItemsText vs

end

end Value

/-- The value for the name of an expression, if it has one. -/
def Expression.value? (values : Values) (e : Expression) : Option Value :=
  if e.name.isEmpty then none else values[String.ofList e.name]?

/-- The value for a placeholder, looked up by the name that its expression starts with. -/
def Hole.value? (d : Delimiters) (values : Values) (h : Hole) : Option Value :=
  (Expression.parse d.separator h.expression).value? values

namespace Piece

def render (d : Delimiters) (values : Values) : Piece → List Char
  | char c => [c]
  | hole h =>
    match h.value? d values with
    | some v => v.text
    | none => h.raw d

end Piece

def renderText (d : Delimiters) (values : Values) (content : List Char) : List Char :=
  (scan d content).flatMap (Piece.render d values)

def render (d : Delimiters) (content : String) (values : Values) : String :=
  String.ofList (renderText d values content.toList)

end FormTemplate
