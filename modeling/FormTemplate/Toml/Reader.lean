import FormTemplate.Toml.Scalar
import FormTemplate.Toml.Text

/-!
# Reader — TOML documents

`Toml.read?` reads a document: lines with a header, a key and a value, or nothing.  Arrays and
inline tables may go over several lines, have comments in them and end in a comma; they nest at
most `maxDepth` levels.
-/

namespace FormTemplate
namespace Toml

def maxDepth : Nat := 80

/-! ## Values -/

mutual

/-- A value and the text after it.  `depth` is the number of levels that may still be opened. -/
def value? (depth : Nat) : Nat → List Char → Option (Toml × List Char)
  | 0, _ => none
  | fuel + 1, t =>
    match t with
    | '"' :: _ => (string? t).map fun (s, rest) => (.string (String.ofList s), rest)
    | '\'' :: _ => (string? t).map fun (s, rest) => (.string (String.ofList s), rest)
    | '[' :: t =>
      match depth with
      | 0 => none
      | depth + 1 => (items? depth fuel t).map fun (vs, rest) => (.array vs, rest)
    | '{' :: t =>
      match depth with
      | 0 => none
      | depth + 1 =>
        (fields? depth [] fuel t).map fun (es, rest) => (.table (entriesToToml es), rest)
    | t => scalar? t

/-- The rest of an array. -/
def items? (depth : Nat) : Nat → List Char → Option (List Toml × List Char)
  | 0, _ => none
  | fuel + 1, t =>
    (skipLines? t.length t).bind fun t =>
      match t with
      | ']' :: rest => some ([], rest)
      | t =>
        (value? depth fuel t).bind fun (v, t) =>
          (skipLines? t.length t).bind fun t =>
            match t with
            | ',' :: t => (items? depth fuel t).map fun (vs, rest) => (v :: vs, rest)
            | ']' :: rest => some ([v], rest)
            | _ => none

/-- The rest of an inline table that has some entries already. -/
def fields? (depth : Nat) (es : Entries) : Nat → List Char → Option (Entries × List Char)
  | 0, _ => none
  | fuel + 1, t =>
    (skipLines? t.length t).bind fun t =>
      match t with
      | '}' :: rest => some (es, rest)
      | t =>
        (keyPath? (t.length + 1) t).bind fun ((path, key), t) =>
          match t with
          | '=' :: t =>
            (value? depth fuel (skipBlanks t)).bind fun (v, t) =>
              (assign? true path key v es).bind fun es =>
                (skipLines? t.length t).bind fun t =>
                  match t with
                  | ',' :: t => fields? depth es fuel t
                  | '}' :: rest => some (es, rest)
                  | _ => none
          | _ => none

end

/-! ## Documents -/

/-- A document up to some line: its entries, and the path of the table that keys belong to. -/
structure Document where
  entries : Entries := []
  table : List String := []

/-- A header after its opening brackets, of which there are `brackets`. -/
def header? (brackets : Nat) (d : Document) (t : List Char) : Option (Document × List Char) :=
  (keyPath? (t.length + 1) t).bind fun ((path, key), t) =>
    let change := if brackets = 1 then openTable? else openElement?
    (Text.dropPrefix? (List.replicate brackets ']') t).bind fun t =>
      (change path key d.entries).bind fun entries =>
        (endOfLine? t).map fun rest => (⟨entries, path ++ [key]⟩, rest)

/-- A key with its value. -/
def assignment? (d : Document) (t : List Char) : Option (Document × List Char) :=
  (keyPath? (t.length + 1) t).bind fun ((path, key), t) =>
    match t with
    | '=' :: t =>
      (value? maxDepth (2 * t.length + 2) (skipBlanks t)).bind fun (v, t) =>
        (within? d.table (assign? true path key v) d.entries).bind fun entries =>
          (endOfLine? t).map fun rest => ({ d with entries }, rest)
    | _ => none

/-- All lines of a document, starting after those that gave `d`. -/
def lines (d : Document) : Nat → List Char → Option Document
  | 0, _ => none
  | fuel + 1, t =>
    match skipBlanks t with
    | [] => some d
    | '[' :: '[' :: t => (header? 2 d t).bind fun (d, rest) => lines d fuel rest
    | '[' :: t => (header? 1 d t).bind fun (d, rest) => lines d fuel rest
    | t =>
      match endOfLine? t with
      | some rest => lines d fuel rest
      | none => (assignment? d t).bind fun (d, rest) => lines d fuel rest

def byteOrderMark : Char := Char.ofNat 0xFEFF

/-- The entries of a document. -/
def read? (text : String) : Option (List (String × Toml)) :=
  let t := text.toList
  let t := if t.head? = some byteOrderMark then t.tail else t
  (lines {} (t.length + 2) t).map fun d => entriesToToml d.entries

end Toml
end FormTemplate
