import FormTemplate.Dictionary
import FormTemplate.Files.Path
import FormTemplate.Unicode.Property

/-!
# Environment — variables and the folders they name

* `Environment.home?` — the home folder;
* `Environment.configPath` — where the configuration is unless a path is given;
* `PathPiece` — the pieces of a path with references: `$NAME`, `${NAME}` and `${NAME:-fallback}`;
* `Environment.expand?` — such a path with the values of the variables, and with the home folder
  for a tilde at its front.

A dollar sign that starts no reference stays, and two of them stand for one.  A variable that is not
set and has no fallback makes the expansion fail.
-/

namespace FormTemplate

structure Environment where
  settings : Dictionary String
  /-- The home folder that the user account has by itself. -/
  accountHome : Option String := none

/-! ## Pieces of a path -/

inductive PathPiece where
  | text (t : List Char)
  | reference (name : String) (fallback : Option (List Char))

namespace PathPiece

def isNameChar (c : Char) : Bool :=
  Unicode.isAlphabetic c || Unicode.isNumeric c || c == '_'

/-- The reference between two braces.  What follows `:-` is its fallback, if a name comes before. -/
def ofBraces (inside : List Char) : PathPiece :=
  match Text.splitFirst [':', '-'] inside with
  | some (c :: name, fallback) => reference (String.ofList (c :: name)) (some fallback)
  | _ => reference (String.ofList inside) none

/-- The pieces of a text; at most `fuel` of them. -/
def read : Nat → List Char → List PathPiece
  | 0, _ => []
  | _ + 1, [] => []
  | fuel + 1, '$' :: '$' :: t => text ['$'] :: read fuel t
  | fuel + 1, '$' :: '{' :: t =>
    match Text.splitFirst ['}'] t with
    | some (inside, rest) => ofBraces inside :: read fuel rest
    | none => text ['$', '{'] :: read fuel t
  | fuel + 1, '$' :: t =>
    let name := t.takeWhile isNameChar
    if name.isEmpty then text ['$'] :: read fuel t
    else reference (String.ofList name) none :: read fuel (t.drop name.length)
  | fuel + 1, c :: t => text [c] :: read fuel t

def ofPath (p : List Char) : List PathPiece :=
  read p.length p

/-- The name of the variable that a piece refers to. -/
def name? : PathPiece → Option String
  | text _ => none
  | reference name _ => some name

def value? (settings : Dictionary String) : PathPiece → Option (List Char)
  | text t => some t
  | reference name fallback => (settings[name]?.map String.toList).or fallback

end PathPiece

namespace Environment

def get? (name : String) (e : Environment) : Option String :=
  e.settings[name]?

/-! ## Folders -/

def home? (e : Environment) : Option String :=
  ((e.get? "HOME").filter fun h => !h.isEmpty).or e.accountHome

/-- The default place of the configuration. -/
def configPath (e : Environment) : String :=
  let base :=
    match e.get? "XDG_CONFIG_HOME" with
    | some folder => folder.toList
    | none => Path.join ((e.home?).getD "~").toList ".config".toList
  String.ofList (Path.join (Path.join base "formvars".toList) "config.toml".toList)

/-! ## Expansion -/

/-- Puts the home folder in place of a tilde that is a whole name at the front. -/
def expandTilde (e : Environment) (p : List Char) : List Char :=
  match p with
  | '~' :: t =>
    if t.isEmpty ∨ t.head? = some '/' then ((e.home?).getD "~").toList ++ t else p
  | p => p

/-- A path with its references expanded.  A tilde counts only if the path itself has it. -/
def expand? (e : Environment) (path : String) : Option String :=
  let p := path.toList
  ((PathPiece.ofPath p).mapM (PathPiece.value? e.settings)).map fun ts =>
    let q := ts.flatten
    String.ofList (if p.head? = some '~' then e.expandTilde q else q)

end Environment
end FormTemplate
