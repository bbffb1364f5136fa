import FormTemplate.Catalog.Json
import FormTemplate.Collection
import FormTemplate.Command.Invocation
import FormTemplate.Configuration
import FormTemplate.Diagnostic
import FormTemplate.Logging
import FormTemplate.Overview
import FormTemplate.Report
import FormTemplate.Supply
import FormTemplate.TemplateFile

/-!
# Command — what each command does

* `Outcome` — what a command prints, its exit code and the files that it leaves;
* `Command.runAction` — a command with a configuration that is in order;
* `Command.run` — a command line from its arguments to its outcome.

A command that fails ends with code 1, and arguments that are not understood with code 2.  Nobody is
asked for values: those that are missing are taken from defaults or make the command fail.
-/

namespace FormTemplate

structure Outcome where
  exitCode : Nat := 0
  out : String := ""
  err : String := ""
  files : Files

namespace Outcome

/-- Some lines, each with a line feed at its end. -/
def lines (ls : List String) : String :=
  String.join (ls.map fun l => l ++ "\n")

def succeed (out : String) (fs : Files) : Outcome :=
  { out, files := fs }

/-- A failure that the standard output tells about. -/
def fail (ls : List String) (fs : Files) : Outcome :=
  { exitCode := 1, out := lines ls, files := fs }

/-- A failure that the error output tells about. -/
def reject (message : String) (fs : Files) : Outcome :=
  { exitCode := 1, err := message ++ "\n", files := fs }

/-- The outcome with something more before its error output. -/
def withWarnings (ls : List String) (o : Outcome) : Outcome :=
  { o with err := lines ls ++ o.err }

end Outcome

namespace Command

def programName : String := "fv"

def version : String := "0.1.0"

def passed (command : String) : String :=
  "OK   " ++ programName ++ " " ++ command

def failed (command : String) : String :=
  "FAIL " ++ programName ++ " " ++ command

/-! ## Shared steps -/

def reportLines (r : Report) : List String :=
  (r.errors.map fun e => "  " ++ e.text) ++ r.warnings.map fun w => "  warning: " ++ w

def diagnosticLines (c : Catalog) : List String :=
  c.diagnostics.map fun d => "warning: " ++ d.text

/-- Goes on with the template of a file. -/
def withTemplate (d : Dialect) (path : String) (fs : Files) (next : Catalog → Outcome) : Outcome :=
  match d.load fs path with
  | .ok c => next c
  | .error fault => .reject ("Error loading template: " ++ fault.message) fs

/-- Goes on with a template and the values supplied for it. -/
def withInput (d : Dialect) (i : Input) (fs : Files) (next : Catalog → Values → Outcome) :
    Outcome :=
  withTemplate d i.template fs fun c =>
    match Values.supplied fs i.valuesFile i.assignments with
    | .ok values => next c values
    | .error fault => .reject ("Error loading values: " ++ fault.message) fs

/-- Writes a text to a file, or to the standard output if no file is given. -/
def writeOutput (output : Option String) (text : String) (fs : Files) : Outcome :=
  match output with
  | none => .succeed text fs
  | some path =>
    let parent := String.ofList ((Path.parent? path.toList).getD [])
    match fs.makeFolders parent with
    | (fs, .error cause) =>
      .reject ("Failed to create parent directory " ++ parent ++ ": " ++ cause.message) fs
    | (fs, .ok _) =>
      match fs.write path text with
      | .error cause =>
        .reject ("Failed to write output file " ++ path ++ ": " ++ cause.message) fs
      | .ok fs => .succeed (Outcome.lines ["OK   wrote " ++ path]) fs

/-! ## Commands -/

def doctor (e : Environment) (c : Configuration) (fs : Files) : Outcome :=
  let d := c.dialect.delimiters
  let l := c.dialect.lexicon
  let path := c.source.getD ("(built-in defaults, no file at " ++ e.configPath ++ ")")
  let lines : List String :=
    [passed "doctor", "version: " ++ version, "path: " ++ path, "profile: " ++ c.profile,
     "open: " ++ String.ofList d.opening, "close: " ++ String.ofList d.closing,
     "separator: " ++ String.ofList d.separator, "labels: " ++ Text.showInt l.labels.size,
     "type_keywords: " ++ Text.showInt l.typeKeywords.length,
     "option_keywords: " ++ Text.showInt l.optionKeywords.length,
     "logging.level: " ++ c.logging.level] ++
    (c.logging.file.map fun file => "logging.file: " ++ file).toList
  .succeed (Outcome.lines lines) fs

def parse (d : Dialect) (template : String) (json : Bool) (fs : Files) : Outcome :=
  withTemplate d template fs fun c =>
    (Outcome.succeed (if json then Json.pretty c.toJson ++ "\n" else c.overview) fs).withWarnings
      (diagnosticLines c)

def render (d : Dialect) (i : Input) (check : Bool) (output : Option String) (fs : Files) :
    Outcome :=
  withInput d i fs fun c values =>
    let r := c.validate values
    if check && !r.valid then .fail (failed "render" :: reportLines r) fs
    else writeOutput output (d.render c.content values) fs

def validate (d : Dialect) (i : Input) (fs : Files) : Outcome :=
  withInput d i fs fun c values =>
    let r := c.validate values
    let o :=
      if r.valid then
        Outcome.succeed
          (Outcome.lines
            ([passed "validate", "variables: " ++ Text.showInt c.size] ++ reportLines r))
          fs
      else .fail (failed "validate" :: reportLines r) fs
    o.withWarnings (diagnosticLines c)

def fill (d : Dialect) (i : Input) (output : Option String) (fs : Files) : Outcome :=
  withInput d i fs fun c values =>
    match c.collect values with
    | .error missing => .reject ("Error: " ++ missing.message) fs
    | .ok collected =>
      let r := c.validate collected.values
      if r.valid then writeOutput output (d.render c.content collected.values) fs
      else .fail (failed "fill" :: reportLines r) fs

def runAction (e : Environment) (c : Configuration) (a : Action) (fs : Files) : Outcome :=
  match a with
  | .doctor => doctor e c fs
  | .parse template json => parse c.dialect template json fs
  | .render input check output => render c.dialect input check output fs
  | .validate input => validate c.dialect input fs
  | .fill input output => fill c.dialect input output fs

/-! ## Command lines -/

/-- An invocation: its configuration, then its logging, then its action. -/
def invoke (e : Environment) (i : Invocation) (fs : Files) : Outcome :=
  let failure := failed i.action.name
  match Configuration.loadOrBuiltin e fs i.config i.profile with
  | .error fault =>
    let place : List String :=
      if i.config.isNone then ["looked for: " ++ e.configPath] else []
    .fail ([failure, fault.message] ++ place) fs
  | .ok c =>
    match c.logging.start e fs with
    | (fs, .error fault) =>
      .fail ([failure, fault.message] ++ (c.source.map fun path => "config: " ++ path).toList) fs
    | (fs, .ok _) => runAction e c i.action fs

def usage : String :=
  "Usage: fv [--config PATH] [--profile NAME] doctor|parse|render|validate|fill ...\n"

/-- A command line. -/
def run (e : Environment) (arguments : List String) (fs : Files) : Outcome :=
  match Invocation.read arguments with
  | .ok i => invoke e i fs
  | .error .version => .succeed (programName ++ " " ++ version ++ "\n") fs
  | .error .help => .succeed usage fs
  | .error .usage => { exitCode := 2, err := usage, files := fs }

end Command
end FormTemplate
