import FormTemplate.Text.Blank

/-!
# Split — cutting text at separators

* `dropPrefix?` — what follows a literal at the front of a text;
* `sameToken` — equality up to the case of ASCII letters;
* `splitFirst` — the text before and after the first occurrence of a separator;
* `pieces n sep t` — at most `n` pieces, the last of which keeps further separators;
* `splitOnChar` — all pieces between the occurrences of one character;
* `contains` — whether a text occurs inside another;
* `join` — pieces with a separator between them.

An empty separator occurs before every character and at the end of the text, so the pieces it cuts
are an empty one, then one character each.
-/

namespace FormTemplate
namespace Text

/-! ## Literals -/

/-- What is left of a text after a literal at its front. -/
def dropPrefix? : List Char → List Char → Option (List Char)
  | [], t => some t
  | _ :: _, [] => none
  | a :: l, c :: t => if a = c then dropPrefix? l t else none

def startsWith (l t : List Char) : Bool :=
  (dropPrefix? l t).isSome

/-- Equality of texts up to the case of ASCII letters. -/
def sameToken (a b : List Char) : Bool :=
  a.map Char.toLower == b.map Char.toLower

/-- Whether `l` occurs in the text at any position. -/
def contains (l : List Char) : List Char → Bool
  | [] => startsWith l []
  | c :: t => startsWith l (c :: t) || contains l t

/-! ## Pieces -/

/-- The text before the first occurrence of `sep` and the text after it. -/
def splitFirst (sep : List Char) : List Char → Option (List Char × List Char)
  | [] => (dropPrefix? sep []).map fun rest => ([], rest)
  | c :: t =>
    match dropPrefix? sep (c :: t) with
    | some rest => some ([], rest)
    | none => (splitFirst sep t).map fun (before, rest) => (c :: before, rest)

/-- One character to a piece, the `n`-th piece being all that is left. -/
def singles : Nat → List Char → List (List Char)
  | 0, _ => []
  | 1, t => [t]
  | _ + 2, [] => [[]]
  | n + 2, c :: t => [c] :: singles (n + 1) t

/-- The pieces between the first `n - 1` occurrences of a separator that is not empty. -/
def cut (sep : List Char) : Nat → List Char → List (List Char)
  | 0, _ => []
  | 1, t => [t]
  | n + 2, t =>
    match splitFirst sep t with
    | some (before, rest) => before :: cut sep (n + 1) rest
    | none => [t]

def pieces (n : Nat) (sep t : List Char) : List (List Char) :=
  match sep, n with
  | _, 0 => []
  | [], 1 => [t]
  | [], n + 2 => [] :: singles (n + 1) t
  | _ :: _, n => cut sep n t

/-- All the pieces between the occurrences of one character. -/
def splitOnChar (sep : Char) : List Char → List (List Char)
  | [] => [[]]
  | c :: t =>
    match splitOnChar sep t with
    | [] => [[c]]
    | p :: ps => if c = sep then [] :: p :: ps else (c :: p) :: ps

/-- The trimmed pieces between commas, blank ones left out. -/
def commaList (t : List Char) : List (List Char) :=
  ((splitOnChar ',' t).map trim).filter fun p => !p.isEmpty

/-! ## Joining -/

def join (sep : List Char) : List (List Char) → List Char
  | [] => []
  | [p] => p
  | p :: q :: ps => p ++ sep ++ join sep (q :: ps)

def joinStrings (sep : String) (ps : List String) : String :=
  String.ofList (join sep.toList (ps.map String.toList))

/-! ## Sizes -/

def total (ns : List Nat) : Nat :=
  ns.foldr Nat.add 0

/-- The number of bytes of a text in UTF-8. -/
def utf8Length (t : List Char) : Nat :=
  total (t.map Char.utf8Size)

end Text
end FormTemplate
