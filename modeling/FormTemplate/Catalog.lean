import FormTemplate.Expression
import FormTemplate.Lexicon
import FormTemplate.Variable

/-!
# Catalog — the variables that a template declares

* `Variable.declare` — the variable of one declaration;
* `Catalog` — a template text with its variables, in the order of their first placeholders, and an
  index of their names;
* `Catalog.add` — what one placeholder adds to a catalog;
* `Catalog.parse` — the catalog of a template text, placeholder by placeholder.

A variable's type comes from its name; an explicit type overrides that, and choices that belong to
its name override both.  The first placeholder of a name counts, whatever later ones declare.
-/

namespace FormTemplate

/-! ## Variables -/

/-- The type that an explicit type segment names: an identifier, or else a type keyword. -/
def Lexicon.explicitType? (l : Lexicon) (token : List Char) : Option FieldType :=
  (FieldType.ofToken? token).or (l.keywordType? token)

namespace Variable

def withExplicitType (l : Lexicon) (token : Option (List Char)) (v : Variable) : Variable :=
  match token.bind l.explicitType? with
  | some type => v.setType type
  | none => v

/-- Choices that belong to the name make the variable a `select` field. -/
def withNameOptions (l : Lexicon) (v : Variable) : Variable :=
  match l.optionsFor? v.name with
  | some choices => { v with type := .select, options := choices }
  | none => v

/-- The third segment has the choices of a `select` field and the rules of any other. -/
def withOptionsOrRules (segment : Option (List Char)) (v : Variable) : Variable :=
  match segment with
  | none => v
  | some t =>
    if v.isChoice then
      let choices := (Text.commaList t).map String.ofList
      if choices.isEmpty then v else { v with options := choices }
    else v.applyRules t

def withExtraRules (segment : Option (List Char)) (v : Variable) : Variable :=
  match segment with
  | none => v
  | some t => v.applyRules t

/-- A `select` field without choices is a text field, and no other field has choices. -/
def settleChoices (v : Variable) : Variable :=
  let v := if v.isChoice && v.options.isEmpty then v.setType .text else v
  if v.isChoice then v else { v with options := [] }

/-- The variable that an expression declares. -/
def declare (l : Lexicon) (e : Expression) : Variable :=
  let name := String.ofList e.name
  (new name (l.labelFor name) (l.inferType name))
    |>.withExplicitType l e.explicitType
    |>.withNameOptions l
    |>.withOptionsOrRules e.optionsOrRules
    |>.withExtraRules e.extraRules
    |>.settleChoices
    |>.refreshHint

end Variable

/-! ## Catalogs -/

structure Catalog where
  content : String
  entries : List Variable
  /-- Where the variable of each name stands among the entries. -/
  index : Dictionary Nat

namespace Catalog

/-- The catalog of a text of which no placeholder has been read yet. -/
def start (content : String) : Catalog :=
  { content, entries := [], index := ∅ }

/-- Reads one more placeholder.  It changes nothing when it has no name, or one that is taken. -/
def add (d : Delimiters) (l : Lexicon) (c : Catalog) (p : Placeholder) : Catalog :=
  let e := p.declaration d
  if e.name.isEmpty then c
  else if c.index.contains (String.ofList e.name) then c
  else
    let v := Variable.declare l e
    { c with entries := c.entries ++ [v], index := c.index.insert v.name c.entries.length }

/-- The catalog of a template text. -/
def parse (d : Delimiters) (l : Lexicon) (content : String) : Catalog :=
  (placeholders d content).foldl (add d l) (start content)

def names (c : Catalog) : List String :=
  c.entries.map Variable.name

/-- The variable of a name, found through the index. -/
def get? (c : Catalog) (name : String) : Option Variable :=
  (c.index[name]?).bind fun i => c.entries[i]?

def contains (c : Catalog) (name : String) : Bool :=
  c.index.contains name

def size (c : Catalog) : Nat :=
  c.entries.length

def isEmpty (c : Catalog) : Bool :=
  c.entries.isEmpty

/-- The names without an entry in a value set, in catalog order. -/
def missingNames (c : Catalog) (values : Values) : List String :=
  c.names.filter fun name => !values.contains name

end Catalog
end FormTemplate
