import FormTemplate.Command.Arguments

/-!
# Invocation — what a command line asks for

* `Action` — the commands with their own options;
* `Invocation` — a command with the configuration and the profile that were asked for;
* `Invocation.read` — the invocation of a list of arguments.

The configuration and the profile may be given before the name of the command or after it; the later
place wins.
-/

namespace FormTemplate

/-- A template and where its values come from. -/
structure Input where
  template : String
  valuesFile : Option String := none
  assignments : List String := []

inductive Action where
  | doctor
  | parse (template : String) (json : Bool)
  | render (input : Input) (check : Bool) (output : Option String)
  | validate (input : Input)
  | fill (input : Input) (output : Option String)

namespace Action

def name : Action → String
  | doctor => "doctor"
  | parse _ _ => "parse"
  | render _ _ _ => "render"
  | validate _ => "validate"
  | fill _ _ => "fill"

def input? : Action → Option Input
  | doctor => none
  | parse template _ => some { template }
  | render input _ _ => some input
  | validate input => some input
  | fill input _ => some input

def output? : Action → Option String
  | render _ _ output => output
  | fill _ output => output
  | _ => none

/-- The paths that a command reads or writes. -/
def paths (a : Action) : List String :=
  match a.input? with
  | none => a.output?.toList
  | some i => i.template :: i.valuesFile.toList ++ a.output?.toList

end Action

structure Invocation where
  config : Option String
  profile : Option String
  action : Action

/-! ## Options -/

/-- The options of every command. -/
def commonSwitches : List Switch :=
  [{ long := "config", kind := .path }, { long := "profile", kind := .text },
   { long := "help", short := some 'h', kind := .stop .help }]

def inputSwitches : List Switch :=
  [{ long := "values", kind := .path }, { long := "var", kind := .texts }]

def outputSwitch : Switch :=
  { long := "output", short := some 'o', kind := .path }

/-- The options that a command has besides those of every command. -/
def switchesOf? (command : String) : Option (List Switch) :=
  match command with
  | "doctor" => some []
  | "parse" => some [{ long := "json", kind := .flag }]
  | "render" => some (outputSwitch :: { long := "check", kind := .flag } :: inputSwitches)
  | "validate" => some inputSwitches
  | "fill" => some (outputSwitch :: { long := "batch", kind := .flag } :: inputSwitches)
  | _ => none

/-! ## Reading -/

namespace Given

/-- The only operand, which is a path. -/
def template? (g : Given) : Option String :=
  match g.operands with
  | [path] => if path.isEmpty then none else some path
  | _ => none

def input? (g : Given) : Option Input :=
  g.template?.map fun template => ⟨template, g.get? "values", g.getAll "var"⟩

/-- The action of a command with the options and operands given to it. -/
def action? (command : String) (g : Given) : Option Action :=
  match command with
  | "doctor" => if g.operands.isEmpty then some .doctor else none
  | "parse" => g.template?.map fun template => .parse template (g.has "json")
  | "render" => g.input?.map fun input => .render input (g.has "check") (g.get? "output")
  | "validate" => g.input?.map .validate
  | "fill" => g.input?.map fun input => .fill input (g.get? "output")
  | _ => none

end Given

namespace Invocation

def read (arguments : List String) : Except Stop Invocation :=
  let version : Switch := { long := "version", short := some 'V', kind := .stop .version }
  (Switch.scan (version :: commonSwitches) true {} arguments).bind fun (before, rest) =>
    match rest with
    | [] => .error .usage
    | "help" :: _ => .error .help
    | command :: rest =>
      match switchesOf? command with
      | none => .error .usage
      | some switches =>
        (Switch.scan (switches ++ commonSwitches) false {} rest).bind fun (given, _) =>
          match given.action? command with
          | none => .error .usage
          | some action =>
            .ok ⟨(given.get? "config").or (before.get? "config"),
              (given.get? "profile").or (before.get? "profile"), action⟩

end Invocation
end FormTemplate
