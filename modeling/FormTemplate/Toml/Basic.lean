/-!
# Toml — the data of a TOML document

* `Toml` — a value; of floats and times only the kind is kept, since nothing here asks for more;
* `Toml.Entries` — a table while a document is read, which remembers how each part of it was
  introduced;
* `openTable?`, `openElement?`, `assign?` — what a header, a header of an array of tables, and a
  key with a value do to the document; each fails where TOML forbids to define something twice.
-/

namespace FormTemplate

inductive Toml where
  | string (s : String)
  | integer (n : Int)
  | real
  | bool (b : Bool)
  | moment
  | array (items : List Toml)
  | table (entries : List (String × Toml))

namespace Toml

/-! ## Tables while they are read -/

/-- How a table came to be. -/
inductive Origin where
  /-- By a header of its own. -/
  | header
  /-- As a part of the path of some header. -/
  | implied
  /-- As a part of a dotted key. -/
  | dotted
  deriving DecidableEq

inductive Node where
  /-- A value that was assigned, which nothing can be added to. -/
  | value (v : Toml)
  | table (origin : Origin) (entries : List (String × Node))
  | elements (tables : List (List (String × Node)))

abbrev Entries := List (String × Node)

/-- Replaces the node of a key, or adds one after all others. -/
def put (key : String) (n : Node) : Entries → Entries
  | [] => [(key, n)]
  | (k, m) :: es => if k = key then (k, n) :: es else (k, m) :: put key n es

/-- Changes the last of some tables. -/
def changeLast? (f : Entries → Option Entries) : List Entries → Option (List Entries)
  | [] => none
  | [es] => (f es).map fun es => [es]
  | es :: more => (changeLast? f more).map fun more => es :: more

/-- Changes the table that a path of headers leads to; an array of tables stands for its last one,
and tables on the way come into being. -/
def within? (path : List String) (f : Entries → Option Entries) (es : Entries) : Option Entries :=
  match path with
  | [] => f es
  | key :: path =>
    match es.lookup key with
    | none => (within? path f []).map fun inner => put key (.table .implied inner) es
    | some (.table origin inner) =>
      (within? path f inner).map fun inner => put key (.table origin inner) es
    | some (.elements tables) =>
      (changeLast? (within? path f) tables).map fun tables => put key (.elements tables) es
    | some (.value _) => none

/-- A header, which may only complete a table that earlier headers implied. -/
def openTable? (path : List String) (key : String) (es : Entries) : Option Entries :=
  within? path
    (fun es =>
      match es.lookup key with
      | none => some (put key (.table .header []) es)
      | some (.table .implied inner) => some (put key (.table .header inner) es)
      | _ => none)
    es

/-- A header that adds a table to an array of tables. -/
def openElement? (path : List String) (key : String) (es : Entries) : Option Entries :=
  within? path
    (fun es =>
      match es.lookup key with
      | none => some (put key (.elements [[]]) es)
      | some (.elements tables) => some (put key (.elements (tables ++ [[]])) es)
      | _ => none)
    es

/-- Gives a key its value in the table that dotted keys lead to.  `open_` says whether the table at
hand may take keys in this way. -/
def assign? (open_ : Bool) (path : List String) (key : String) (v : Toml) (es : Entries) :
    Option Entries :=
  match path with
  | [] =>
    if !open_ || (es.lookup key).isSome then none else some (put key (.value v) es)
  | next :: path =>
    match es.lookup next with
    | none => (assign? true path key v []).map fun inner => put next (.table .dotted inner) es
    | some (.table .header _) => none
    | some (.table origin inner) =>
      (assign? (origin == .dotted) path key v inner).map fun inner =>
        put next (.table origin inner) es
    | some (.elements tables) =>
      (changeLast? (assign? false path key v) tables).map fun tables =>
        put next (.elements tables) es
    | some (.value _) => none

/-! ## Finished tables -/

mutual

def Node.toToml : Node → Toml
  | .value v => v
  | .table _ entries => .table (entriesToToml entries)
  | .elements tables => .array (tablesToToml tables)

def entriesToToml : List (String × Node) → List (String × Toml)
  | [] => []
  | (key, n) :: es => (key, n.toToml) :: entriesToToml es

def tablesToToml : List (List (String × Node)) → List Toml
  | [] => []
  | es :: more => .table (entriesToToml es) :: tablesToToml more

end

end Toml
end FormTemplate
