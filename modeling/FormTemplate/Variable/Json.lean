import FormTemplate.Json.Record
import FormTemplate.Variable

/-!
# Json — variables and their constraints as JSON

* `Variable.toJson` — a variable as an object, with the fields in their usual order and without
  those that hold nothing;
* `Variable.ofJson?` — the variable that an object, or an array of its fields, describes.
-/

namespace FormTemplate

namespace FieldType

/-- A type is written as its identifier, or as an object with the identifier and null. -/
def ofJson? : Value → Option FieldType
  | .string s => ofId? s
  | .object [(s, .null)] => ofId? s
  | _ => none

end FieldType

namespace Constraints

def toJson (c : Constraints) : Value :=
  .object <|
    (c.min.map fun n => ("min", Value.number (.integer n))).toList ++
    (c.max.map fun n => ("max", Value.number (.integer n))).toList ++
    (c.pattern.map fun p => ("pattern", Value.string p)).toList ++
    (c.message.map fun m => ("message", Value.string m)).toList

def ofJson? (v : Value) : Option Constraints := do
  let [min, max, pattern, message] ← Json.record? ["min", "max", "pattern", "message"] v
    | none
  return {
    min := ← Json.optional? Json.asInt64? min
    max := ← Json.optional? Json.asInt64? max
    pattern := ← Json.optional? Json.asString? pattern
    message := ← Json.optional? Json.asString? message }

end Constraints

namespace Variable

def toJson (x : Variable) : Value :=
  .object <|
    [("name", .string x.name), ("label", .string x.label), ("type", .string x.type.id),
      ("required", .bool x.required)] ++
    (x.default.map fun v => ("defaultValue", v)).toList ++
    (if x.options.isEmpty then [] else [("options", .array (x.options.map .string))]) ++
    [("placeholder", .string x.hint)] ++
    (x.validation.map fun c => ("validation", c.toJson)).toList

def fieldNames : List String :=
  ["name", "label", "type", "required", "defaultValue", "options", "placeholder", "validation"]

def ofJson? (v : Value) : Option Variable := do
  let [name, label, type, required, default, options, hint, validation] ←
      Json.record? fieldNames v
    | none
  return {
    name := ← name.bind Json.asString?
    label := ← label.bind Json.asString?
    type := ← type.bind FieldType.ofJson?
    required := ← Json.defaulted? Json.asBool? false required
    default := ← Json.optional? some default
    options := ← Json.defaulted? (Json.asList? Json.asString?) [] options
    hint := ← hint.bind Json.asString?
    validation := ← Json.optional? Constraints.ofJson? validation }

end Variable
end FormTemplate
