import FormTemplate.Dictionary
import FormTemplate.FieldType
import FormTemplate.Unicode.Case

/-!
# Lexicon — what a bare name says about its field

A lexicon turns a variable name into a label, a type and, for some names, a list of choices.

* Labels belong to exact names; a name without one is humanized: cut into words, its first
  character in uppercase.
* A type or option keyword belongs to every name that contains it, both in lowercase.  The first
  keyword in table order wins.
* `keywordType?` is stricter: the token must be the keyword, up to the case of ASCII letters.
-/

namespace FormTemplate

structure TypeKeyword where
  keyword : String
  type : FieldType
  deriving DecidableEq

structure OptionKeyword where
  keyword : String
  choices : List String
  deriving DecidableEq

structure Lexicon where
  labels : Dictionary String
  typeKeywords : List TypeKeyword
  optionKeywords : List OptionKeyword
  deriving BEq

namespace Lexicon

def empty : Lexicon :=
  ⟨∅, [], []⟩

/-! ## Extending a lexicon -/

def withLabel (name label : String) (l : Lexicon) : Lexicon :=
  { l with labels := l.labels.insert name label }

def withLabels (labels : List (String × String)) (l : Lexicon) : Lexicon :=
  { l with labels := l.labels.override labels }

/-- Adds type keywords after those there are.  A blank keyword is left out. -/
def withTypeKeywords (ks : List TypeKeyword) (l : Lexicon) : Lexicon :=
  { l with typeKeywords := l.typeKeywords ++ ks.filter fun k => !Text.blankString k.keyword }

def withTypeKeyword (keyword : String) (type : FieldType) (l : Lexicon) : Lexicon :=
  l.withTypeKeywords [⟨keyword, type⟩]

/-- Adds option keywords after those there are.  One that is blank or has no choices is left out. -/
def withOptionKeywords (ks : List OptionKeyword) (l : Lexicon) : Lexicon :=
  { l with
    optionKeywords := l.optionKeywords ++
      ks.filter fun k => !Text.blankString k.keyword && !k.choices.isEmpty }

def withOptionKeyword (keyword : String) (choices : List String) (l : Lexicon) : Lexicon :=
  l.withOptionKeywords [⟨keyword, choices⟩]

/-! ## Labels -/

def isWordSeparator (c : Char) : Bool :=
  c == '_' || c == '-' || Text.isBlank c

/-- Whether a word starts at `c` when `prev` comes before it. -/
def isWordStart (prev : Option Char) (c : Char) : Bool :=
  Unicode.isUppercase c && prev.any fun p => Unicode.isLowercase p || Text.isDigit p

/-- The pieces of a name between its separators and before its inner capitals; some are empty. -/
def namePieces (prev : Option Char) : List Char → List (List Char)
  | [] => [[]]
  | c :: t =>
    if isWordSeparator c then [] :: namePieces (some c) t
    else
      match namePieces (some c) t with
      | [] => [[c]]
      | w :: ws => if isWordStart prev c then [] :: (c :: w) :: ws else (c :: w) :: ws

def words (name : List Char) : List (List Char) :=
  (namePieces none name).filter fun w => !w.isEmpty

def capitalize : List Char → List Char
  | [] => []
  | c :: t => Unicode.toUpper c ++ t

/-- The words of a name with blanks between them, the first character in uppercase. -/
def humanize (name : List Char) : List Char :=
  capitalize (Text.join [' '] (words name))

/-- The label of the table, or else the humanized name, or the name if that is empty. -/
def labelFor (l : Lexicon) (name : String) : String :=
  match l.labels[name]? with
  | some label => label
  | none =>
    let label := humanize name.toList
    if label.isEmpty then name else String.ofList label

/-! ## Types and choices -/

/-- Whether a name contains a keyword when both are in lowercase. -/
def mentions (name : List Char) (keyword : String) : Bool :=
  Text.contains (Unicode.lowercase keyword.toList) (Unicode.lowercase name)

def inferType (l : Lexicon) (name : String) : FieldType :=
  ((l.typeKeywords.find? fun k => mentions name.toList k.keyword).map TypeKeyword.type).getD .text

def optionsFor? (l : Lexicon) (name : String) : Option (List String) :=
  (l.optionKeywords.find? fun k => mentions name.toList k.keyword).map OptionKeyword.choices

/-- The type of a keyword that is given in place of a type identifier. -/
def keywordType? (l : Lexicon) (token : List Char) : Option FieldType :=
  (l.typeKeywords.find? fun k => Text.sameToken k.keyword.toList (Text.trim token)).map
    TypeKeyword.type

end Lexicon
end FormTemplate
