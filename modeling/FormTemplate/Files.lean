import FormTemplate.Files.Path

/-!
# Files — folders and files that commands read and write

`Files` is a tree of folders and files together with the folder that relative paths start from.

* `locate` — the place that a path leads to, which need not exist;
* `read`, `contains`, `isFolder` — asking for what is there;
* `createFolder`, `makeFolders` — making one folder, or one with all the folders around it;
* `write`, `touch` — giving a file a text, and making sure that there is a file;
* `createFolders` — the folders of a tree that is set up before anything runs in it.

An operation that cannot be done has a `FileFault` as its cause.  It then changes nothing, save that
the folders stay that `makeFolders` has made.
-/

namespace FormTemplate

/-- Why a file operation cannot be done. -/
inductive FileFault where
  | notFound
  | alreadyExists
  | notAFolder
  | isAFolder
  /-- The bytes of a file are no text. -/
  | undecodable
  deriving DecidableEq

namespace FileFault

def message : FileFault → String
  | notFound => "No such file or directory (os error 2)"
  | alreadyExists => "File exists (os error 17)"
  | notAFolder => "Not a directory (os error 20)"
  | isAFolder => "Is a directory (os error 21)"
  | undecodable => "stream did not contain valid UTF-8"

end FileFault

/-- The names that lead from the root to a place, the innermost first. -/
abbrev Location := List String

inductive FileEntry where
  | folder
  | text (content : String)
  /-- A file whose bytes are no text. -/
  | binary
  deriving DecidableEq

structure Files where
  /-- What is at each place other than the root. -/
  entries : List (Location × FileEntry)
  /-- The folder that relative paths start from. -/
  here : Location

namespace Files

/-! ## Places -/

def entry? (l : Location) (fs : Files) : Option FileEntry :=
  if l.isEmpty then some .folder else fs.entries.lookup l

def put (l : Location) (e : FileEntry) (fs : Files) : Files :=
  { fs with entries := (l, e) :: fs.entries.filter fun old => old.1 != l }

/-- The place itself, if there is a folder. -/
def folderAt (l : Location) (fs : Files) : Except FileFault Location :=
  match fs.entry? l with
  | some .folder => .ok l
  | some _ => .error .notAFolder
  | none => .error .notFound

/-- Goes from a folder to the place of a name in it. -/
def step (fs : Files) (l : Location) (name : String) : Except FileFault Location :=
  (fs.folderAt l).map fun l =>
    if name = "." then l else if name = ".." then l.tail else name :: l

/-- Where some names lead to from the start of a path. -/
def follow (fs : Files) (p : List Char) (names : List String) : Except FileFault Location :=
  names.foldlM fs.step (if Path.isAbsolute p then [] else fs.here)

/-- The place that a path leads to.  Only its last name may be missing in the tree. -/
def locate (fs : Files) (path : String) : Except FileFault Location :=
  let p := path.toList
  if p.isEmpty then .error .notFound
  else
    (fs.follow p (Path.names p)).bind fun l =>
      if Path.endsInSlash p then fs.folderAt l else .ok l

/-! ## Asking -/

/-- The entry that a path leads to. -/
def find (fs : Files) (path : String) : Except FileFault FileEntry :=
  (fs.locate path).bind fun l =>
    match fs.entry? l with
    | some e => .ok e
    | none => .error .notFound

def contains (fs : Files) (path : String) : Bool :=
  (fs.find path).toBool

def isFolder (fs : Files) (path : String) : Bool :=
  match fs.find path with
  | .ok .folder => true
  | _ => false

/-- The text of a file. -/
def read (fs : Files) (path : String) : Except FileFault String :=
  (fs.find path).bind fun
    | .text content => .ok content
    | .folder => .error .isAFolder
    | .binary => .error .undecodable

/-! ## Folders -/

/-- The place for a new entry: the last name of a path in an existing folder, unless that name
stands for a folder that exists anyway. -/
def newPlace (fs : Files) (p : List Char) : Except FileFault (Option Location) :=
  if p.isEmpty then .error .notFound
  else
    let names := Path.names p
    match names.getLast? with
    | none => .ok none
    | some name =>
      (fs.follow p names.dropLast).bind fun l =>
        (fs.folderAt l).map fun l => if name = "." ∨ name = ".." then none else some (name :: l)

def createFolder (path : String) (fs : Files) : Except FileFault Files :=
  (fs.newPlace path.toList).bind fun
    | some l => if (fs.entry? l).isSome then .error .alreadyExists else .ok (fs.put l .folder)
    | none => .error .alreadyExists

/-- Makes the first of some folders, and the others before it if it cannot be made without them. -/
def makeChain : List String → Files → Files × Except FileFault Unit
  | [], fs => (fs, .ok ())
  | path :: outer, fs =>
    let orThere (fs : Files) (e : FileFault) : Files × Except FileFault Unit :=
      (fs, if fs.isFolder path then .ok () else .error e)
    if path.isEmpty then (fs, .ok ())
    else
      match fs.createFolder path with
      | .ok fs => (fs, .ok ())
      | .error .notFound =>
        match makeChain outer fs with
        | (fs, .error e) => (fs, .error e)
        | (fs, .ok _) =>
          match fs.createFolder path with
          | .ok fs => (fs, .ok ())
          | .error e => orThere fs e
      | .error e => orThere fs e

/-- Makes a folder and those around it that are missing.  Some may have been made when it fails. -/
def makeFolders (path : String) (fs : Files) : Files × Except FileFault Unit :=
  let p := path.toList
  makeChain ((Path.ancestors (p.length + 1) p).map String.ofList) fs

/-- A tree with a folder and those around it, or no tree.  This is for setting up the files that a
command is to find; commands use `makeFolders`, which keeps what it has made. -/
def createFolders (path : String) (fs : Files) : Except FileFault Files :=
  match fs.makeFolders path with
  | (fs, .ok _) => .ok fs
  | (_, .error e) => .error e

/-! ## Files -/

/-- The place where a path may have a file. -/
def filePlace (fs : Files) (path : String) : Except FileFault Location :=
  let p := path.toList
  (fs.newPlace p).bind fun
    | none => .error .isAFolder
    | some l =>
      if Path.endsInSlash p ∨ fs.entry? l = some .folder then .error .isAFolder else .ok l

/-- Gives a file a text, whether it is new or not. -/
def write (path content : String) (fs : Files) : Except FileFault Files :=
  (fs.filePlace path).map fun l => fs.put l (.text content)

/-- Makes an empty file unless there is one. -/
def touch (path : String) (fs : Files) : Except FileFault Files :=
  (fs.filePlace path).map fun l => if (fs.entry? l).isSome then fs else fs.put l (.text "")

end Files
end FormTemplate
