import FormTemplate.Command

/-!
# Main — the command line on real files

The paths that a command line names are looked up before the command runs, and what it has changed
is written afterwards.
-/

namespace FormTemplate
namespace Terminal

/-! ## Looking up files -/

/-- What is at an absolute path; whatever cannot be opened counts as missing. -/
def probe (path : String) : IO (Option FileEntry) := do
  try
    let bytes ← IO.FS.readBinFile path
    return some ((String.fromUTF8? bytes).elim .binary .text)
  catch
    | .inappropriateType _ 21 _ => return some .folder
    | _ => return none

def absolutePath (l : Location) : String :=
  "/" ++ Text.joinStrings "/" l.reverse

/-- Adds what is at a place to a tree, and at all places around it. -/
def withPlace (fs : Files) : Location → IO Files
  | [] => return fs
  | name :: outer => do
    let l := name :: outer
    let fs ← withPlace fs outer
    match ← probe (absolutePath l) with
    | some e => return fs.put l e
    | none => return fs

/-- Adds what is at the places that a path leads over. -/
def withPath (fs : Files) (path : String) : IO Files := do
  let p := path.toList
  let mut fs ← withPlace fs (if Path.isAbsolute p then [] else fs.here)
  let mut l : Location := if Path.isAbsolute p then [] else fs.here
  for name in Path.names p do
    l := if name = "." then l else if name = ".." then l.tail else name :: l
    fs ← withPlace fs l
  return fs

/-! ## The environment -/

def withVariable (e : Environment) (name : String) : IO Environment := do
  match ← IO.getEnv name with
  | some value => return { e with settings := e.settings.insert name value }
  | none => return e

/-- The variables that the path of a log file refers to. -/
def logVariables (b : ProfileBook) : List String :=
  match b.logging.file with
  | some path => (PathPiece.ofPath path.toList).filterMap PathPiece.name?
  | none => []

/-! ## Running -/

/-- The environment and the files that an invocation depends on. -/
def surroundings (i : Invocation) (here : Location) : IO (Environment × Files) := do
  let e ← ["HOME", "XDG_CONFIG_HOME", "FV_LOG"].foldlM withVariable { settings := ∅ }
  let config := i.config.getD e.configPath
  let fs ← (config :: i.action.paths).foldlM withPath ⟨[], here⟩
  let names := ((Configuration.readBook fs config).toOption.map logVariables).getD []
  let e ← names.foldlM withVariable e
  let logFile : Option String :=
    (Configuration.loadOrBuiltin e fs i.config i.profile).toOption.bind fun c => c.logging.file
  return (e, ← logFile.toList.foldlM withPath fs)

/-- Writes what is new or different in a tree. -/
def writeBack (before after : Files) : IO Unit := do
  for (l, e) in after.entries.reverse do
    if before.entry? l ≠ some e then
      match e with
      | .folder => IO.FS.createDirAll (absolutePath l)
      | .text content => IO.FS.writeFile (absolutePath l) content
      | .binary => return

def run (arguments : List String) : IO UInt32 := do
  let folder := (← IO.currentDir).toString
  let here : Location := (Path.names folder.toList).reverse
  let (e, fs) ←
    match Invocation.read arguments with
    | .ok i => surroundings i here
    | .error _ => pure ({ settings := ∅ }, ⟨[], here⟩)
  let outcome := Command.run e arguments fs
  writeBack fs outcome.files
  (← IO.getStdout).putStr outcome.out
  (← IO.getStderr).putStr outcome.err
  return outcome.exitCode.toUInt32

end Terminal
end FormTemplate

def main (arguments : List String) : IO UInt32 :=
  FormTemplate.Terminal.run arguments
