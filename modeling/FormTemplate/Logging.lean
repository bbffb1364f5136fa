import FormTemplate.Environment
import FormTemplate.Files
import FormTemplate.LogFilter
import FormTemplate.Profile

/-!
# Logging — what has to be in order before a command runs

`LogSettings.start` checks the filter of the terminal, makes sure that the log file is there, and
checks the filter of the file, in this order.  The first fault ends it; what was made before stays.
-/

namespace FormTemplate

inductive LogFault where
  | badFilter (key value : String) (cause : LogFilterFault)
  | noFileName (path : String)
  | noFolder (path : String) (cause : FileFault)
  | noFile (path : String) (cause : FileFault)
  deriving DecidableEq

namespace LogFault

def message : LogFault → String
  | badFilter key value cause =>
    "invalid log filter for logging." ++ key ++ " '" ++ value ++ "': " ++ cause.message
  | noFileName path => "failed to open log file " ++ path ++ ": path does not name a file"
  | noFolder path cause =>
    "failed to open log file " ++ path ++ ": failed to create log directory: " ++ cause.message
  | noFile path cause =>
    "failed to open log file " ++ path ++ ": failed to create initial log file: " ++ cause.message

end LogFault

namespace LogSettings

def checkFilter (key value : String) : Except LogFault Unit :=
  match LogFilter.check value with
  | .ok _ => .ok ()
  | .error cause => .error (.badFilter key value cause)

/-- The filter of the terminal: the one that the environment asks for, unless it is blank. -/
def terminalFilter (e : Environment) (l : LogSettings) : String :=
  ((e.get? "FV_LOG").filter fun value => !Text.blankString value).getD l.level

def checkTerminal (e : Environment) (l : LogSettings) : Except LogFault Unit :=
  checkFilter "level" (l.terminalFilter e)

def checkFile (l : LogSettings) : Except LogFault Unit :=
  match l.fileLevel with
  | some value => checkFilter "file_level" value
  | none => checkFilter "level" l.level

/-- Makes sure that there is a log file, and the folders around it. -/
def openFile (path : String) (fs : Files) : Files × Except LogFault Unit :=
  let p := path.toList
  match Path.fileName? p with
  | none => (fs, .error (.noFileName path))
  | some name =>
    let folder := ((Path.parent? p).filter fun q => !q.isEmpty).getD ['.']
    let file := Path.join folder name
    match fs.touch (String.ofList file) with
    | .ok fs => (fs, .ok ())
    | .error _ =>
      match fs.makeFolders (String.ofList ((Path.parent? file).getD [])) with
      | (fs, .error cause) => (fs, .error (.noFolder path cause))
      | (fs, .ok _) =>
        match fs.touch (String.ofList file) with
        | .ok fs => (fs, .ok ())
        | .error cause => (fs, .error (.noFile path cause))

/-- The files once logging has started, and the fault if it has not. -/
def start (e : Environment) (l : LogSettings) (fs : Files) : Files × Except LogFault Unit :=
  match l.checkTerminal e with
  | .error fault => (fs, .error fault)
  | .ok _ =>
    match l.file with
    | none => (fs, .ok ())
    | some path =>
      match openFile path fs with
      | (fs, .error fault) => (fs, .error fault)
      | (fs, .ok _) => (fs, l.checkFile)

end LogSettings
end FormTemplate
