import FormTemplate.Dictionary
import FormTemplate.Files
import FormTemplate.Json.Reader
import FormTemplate.Yaml.Reader

/-!
# Supply — where the values of a form come from

* `Values.ofAssignments` — arguments such as `name=value`, whose values are strings;
* `Values.ofFile` — a file with a JSON object, or with a YAML mapping if its extension says so;
* `Values.supplied` — both, where arguments win over the file.
-/

namespace FormTemplate

inductive SupplyFault where
  | unreadable (path : String) (cause : FileFault)
  /-- A file without a mapping from names to values. -/
  | malformed (path : String)
  /-- An argument without an equals sign, or without a name before it. -/
  | badAssignment (argument : String)
  deriving DecidableEq

namespace SupplyFault

def message : SupplyFault → String
  | unreadable path cause => "failed to read values file " ++ path ++ ": " ++ cause.message
  | malformed path => "failed to parse values file " ++ path
  | badAssignment argument =>
    "invalid --var '" ++ argument ++ "'\n  Hint: use --var name=value"

end SupplyFault

namespace Values

/-! ## Arguments -/

/-- The trimmed name before the first equals sign, and the text after that sign. -/
def assignment? (argument : String) : Option (String × Value) :=
  (Text.splitFirst ['='] argument.toList).bind fun (name, text) =>
    let name := Text.trim name
    if name.isEmpty then none else some (String.ofList name, .string (String.ofList text))

def assignments (arguments : List String) : Except SupplyFault (List (String × Value)) :=
  arguments.mapM fun argument =>
    match assignment? argument with
    | some entry => .ok entry
    | none => .error (.badAssignment argument)

def ofAssignments (arguments : List String) : Except SupplyFault Values :=
  (assignments arguments).map Dictionary.ofEntries

/-! ## Files -/

def isYamlPath (path : String) : Bool :=
  (Path.extension? path.toList).any fun e =>
    Text.sameToken e "yaml".toList || Text.sameToken e "yml".toList

/-- The entries of the mapping that a text describes. -/
def mapping? (yaml : Bool) (text : String) : Option (List (String × Value)) :=
  if yaml then Yaml.readMapping? text
  else
    match Json.read? text with
    | some (.object fields) => some fields
    | _ => none

def ofFile (fs : Files) (path : String) : Except SupplyFault Values :=
  match fs.read path with
  | .error cause => .error (.unreadable path cause)
  | .ok text =>
    match mapping? (isYamlPath path) text with
    | some entries => .ok (Dictionary.ofEntries entries)
    | none => .error (.malformed path)

/-- The values of a file, if one is given, with those of the arguments, which win. -/
def supplied (fs : Files) (file : Option String) (arguments : List String) :
    Except SupplyFault Values :=
  match file with
  | none => ofAssignments arguments
  | some path =>
    (ofFile fs path).bind fun values => (assignments arguments).map values.override

end Values
end FormTemplate
