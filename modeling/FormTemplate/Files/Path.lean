import FormTemplate.Text.Split

/-!
# Path — the texts that name files

* `Path.fileName?` — the last name of a path, unless the path ends in a parent folder;
* `Path.parent?` — the path without its last name, otherwise as it was written;
* `Path.extension?` — what follows the last dot of the file name;
* `Path.join` — a path below another one;
* `Path.names` — the names that lead from the start of a path to its end.

Slashes at the end of a path and names that are one dot do not count, except for a dot at the front.
-/

namespace FormTemplate
namespace Path

/-! ## Front and body -/

def isAbsolute (p : List Char) : Bool :=
  p.head? == some '/'

/-- The root or the leading dot of a path, if it has one, and the names after it. -/
def frontAndBody : List Char → List Char × List Char
  | '/' :: t => (['/'], t)
  | ['.'] => (['.'], [])
  | '.' :: '/' :: t => (['.'], '/' :: t)
  | t => ([], t)

/-- Whether a name stands for the folder that it is in. -/
def staysInPlace (name : List Char) : Bool :=
  name == [] || name == ['.']

/-- Some names without those at the end that stay in place. -/
def dropStays (names : List (List Char)) : List (List Char) :=
  (names.reverse.dropWhile staysInPlace).reverse

/-- The names of a body up to the last one that leads somewhere. -/
def bodyNames (body : List Char) : List (List Char) :=
  dropStays (Text.splitOnChar '/' body)

/-! ## Parts -/

def fileName? (p : List Char) : Option (List Char) :=
  (bodyNames (frontAndBody p).2).getLast?.filter fun name => name != ['.', '.']

def parent? (p : List Char) : Option (List Char) :=
  let (front, body) := frontAndBody p
  let names := bodyNames body
  if names.isEmpty then (if front = ['.'] then some [] else none)
  else some (front ++ Text.join ['/'] (dropStays names.dropLast))

/-- A path, its parent, the parent of that, and so on; at most `fuel` of them. -/
def ancestors : Nat → List Char → List (List Char)
  | 0, _ => []
  | fuel + 1, p =>
    match parent? p with
    | none => [p]
    | some q => p :: ancestors fuel q

/-- What follows the last dot of the file name, if something comes before that dot. -/
def extension? (p : List Char) : Option (List Char) :=
  (fileName? p).bind fun name =>
    let after := (name.reverse.takeWhile (· != '.')).reverse
    if after.length + 1 < name.length then some after else none

/-! ## Composition -/

/-- The path of a relative name below a path. -/
def join (p name : List Char) : List Char :=
  if p.isEmpty ∨ p.getLast? = some '/' then p ++ name else p ++ '/' :: name

/-- The names of a path in order, without those that are empty. -/
def names (p : List Char) : List String :=
  ((Text.splitOnChar '/' p).filter fun name => !name.isEmpty).map String.ofList

/-- Whether a path ends in a slash, which only a folder may. -/
def endsInSlash (p : List Char) : Bool :=
  p.getLast? == some '/'

end Path
end FormTemplate
