import FormTemplate.Environment
import FormTemplate.Files
import FormTemplate.Profile.Toml

/-!
# Configuration — the dialect and logging in use

* `Configuration.load` — the configuration of a file: its active profile, with the references in the
  path of the log file expanded;
* `Configuration.loadOrBuiltin` — the same, but the built-in configuration where no path is given
  and nothing is at the default place;
* `ConfigurationFault` — why there is no configuration.  Of several causes the first in the order of
  the constructors is given.
-/

namespace FormTemplate

inductive ConfigurationFault where
  | notFound (path : String)
  | unreadable (path : String) (cause : FileFault)
  /-- The text is no TOML document, or one that describes no configuration. -/
  | malformed (path : String)
  | unsupportedVersion (version : Nat)
  | noProfiles
  | unknownProfile (name : String)
  | invalidDelimiters (profile : String) (fault : DelimiterFault)
  /-- A reference in the path of the log file has no value. -/
  | noHome
  deriving DecidableEq

namespace ConfigurationFault

def message : ConfigurationFault → String
  | notFound path => "config file not found at " ++ path
  | unreadable path cause => "failed to read config file " ++ path ++ ": " ++ cause.message
  | malformed path => "failed to parse TOML in " ++ path
  | unsupportedVersion version =>
    "version " ++ Text.showInt version ++ " is unsupported (expected " ++
      Text.showInt ProfileBook.supportedVersion ++ ")"
  | noProfiles => "no profiles defined in config"
  | unknownProfile name => "profile '" ++ name ++ "' not found"
  | invalidDelimiters profile fault =>
    "invalid placeholder syntax in profile '" ++ profile ++ "': " ++ fault.message
  | noHome => "home directory not available to expand '~'"

end ConfigurationFault

structure Configuration where
  /-- The name of the active profile. -/
  profile : String
  /-- The file that the configuration comes from. -/
  source : Option String
  dialect : Dialect
  logging : LogSettings

namespace Configuration

def builtin : Configuration where
  profile := "default"
  source := none
  dialect := Dialect.builtin
  logging := {}

/-! ## Loading -/

def expandFile (e : Environment) (l : LogSettings) : Except ConfigurationFault LogSettings :=
  match l.file with
  | none => .ok l
  | some path =>
    match e.expand? path with
    | some path => .ok { l with file := some path }
    | none => .error .noHome

/-- The configuration that the active profile of a book gives. -/
def resolve (e : Environment) (asked : Option String) (source : String) (b : ProfileBook) :
    Except ConfigurationFault Configuration :=
  let name := b.activeName asked
  if b.version ≠ ProfileBook.supportedVersion then .error (.unsupportedVersion b.version)
  else if b.profiles.isEmpty then .error .noProfiles
  else
    match b.profiles.lookup name with
    | none => .error (.unknownProfile name)
    | some p =>
      match p.dialect with
      | .error fault => .error (.invalidDelimiters name fault)
      | .ok dialect =>
        (expandFile e b.logging).map fun logging => ⟨name, some source, dialect, logging⟩

/-- The profiles of a file. -/
def readBook (fs : Files) (path : String) : Except ConfigurationFault ProfileBook :=
  if !fs.contains path then .error (.notFound path)
  else
    match fs.read path with
    | .error cause => .error (.unreadable path cause)
    | .ok text =>
      match ProfileBook.read? text with
      | none => .error (.malformed path)
      | some b => .ok b

/-- The configuration of a file, or of the default place. -/
def load (e : Environment) (fs : Files) (path asked : Option String) :
    Except ConfigurationFault Configuration :=
  let path := path.getD e.configPath
  (readBook fs path).bind (resolve e asked path)

/-- Without a file at the default place only the profile of the built-in configuration is there. -/
def loadOrBuiltin (e : Environment) (fs : Files) (path asked : Option String) :
    Except ConfigurationFault Configuration :=
  if path.isSome ∨ fs.contains e.configPath then load e fs path asked
  else
    match asked with
    | some name =>
      if name = builtin.profile then .ok builtin else .error (.unknownProfile name)
    | none => .ok builtin

end Configuration
end FormTemplate
