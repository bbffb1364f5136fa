import FormTemplate.Decimal.Shortest
import FormTemplate.Value

/-!
# Printer — values as JSON text

* `Json.quote` — a string in quotes, with escapes for quotes, backslashes and control characters;
* `Json.compact` — a value without any blanks;
* `Json.pretty` — a value over several lines, two blanks of indentation to a level.

Fields are printed in the order in which an object lists them.
-/

namespace FormTemplate
namespace Json

/-! ## Strings -/

def hexDigit (n : Nat) : Char :=
  if n < 10 then Char.ofNat ('0'.toNat + n) else Char.ofNat ('a'.toNat + n - 10)

/-- The escape of a character inside quotes, or the character itself. -/
def escape (c : Char) : List Char :=
  match c with
  | '"' => ['\\', '"']
  | '\\' => ['\\', '\\']
  | '\n' => ['\\', 'n']
  | '\r' => ['\\', 'r']
  | '\t' => ['\\', 't']
  | '\x08' => ['\\', 'b']
  | '\x0c' => ['\\', 'f']
  | c =>
    if c.toNat < 0x20 then
      ['\\', 'u', '0', '0', hexDigit (c.toNat / 16), hexDigit (c.toNat % 16)]
    else [c]

def quote (s : String) : List Char :=
  '"' :: s.toList.flatMap escape ++ ['"']

def number : Number → List Char
  | .integer n => (Text.showInt n).toList
  | .real x => x.text.toList

def bool (b : Bool) : List Char :=
  if b then ['t', 'r', 'u', 'e'] else ['f', 'a', 'l', 's', 'e']

/-! ## Compact text -/

mutual

def value : Value → List Char
  | .null => ['n', 'u', 'l', 'l']
  | .bool b => bool b
  | .number n => number n
  | .string s => quote s
  | .array items => '[' :: elements items ++ [']']
  | .object fields => '{' :: members fields ++ ['}']

def elements : List Value → List Char
  | [] => []
  | v :: vs => value v ++ moreElements vs

def moreElements : List Value → List Char
  | [] => []
  | v :: vs => ',' :: value v ++ moreElements vs

def members : List (String × Value) → List Char
  | [] => []
  | (k, v) :: fs => quote k ++ ':' :: value v ++ moreMembers fs

def moreMembers : List (String × Value) → List Char
  | [] => []
  | (k, v) :: fs => ',' :: quote k ++ ':' :: value v ++ moreMembers fs

end

def compact (v : Value) : String :=
  String.ofList (value v)

/-! ## Indented text -/

def newline (level : Nat) : List Char :=
  '\n' :: List.replicate (2 * level) ' '

mutual

def indented (level : Nat) : Value → List Char
  | .array (v :: vs) =>
    '[' :: newline (level + 1) ++ indented (level + 1) v ++ indentedElements (level + 1) vs ++
      newline level ++ [']']
  | .object ((k, v) :: fs) =>
    '{' :: newline (level + 1) ++ quote k ++ ':' :: ' ' :: indented (level + 1) v ++
      indentedMembers (level + 1) fs ++ newline level ++ ['}']
  | .array [] => ['[', ']']
  | .object [] => ['{', '}']
  | .null => value .null
  | .bool b => bool b
  | .number n => number n
  | .string s => quote s

def indentedElements (level : Nat) : List Value → List Char
  | [] => []
  | v :: vs => ',' :: newline level ++ indented level v ++ indentedElements level vs

def indentedMembers (level : Nat) : List (String × Value) → List Char
  | [] => []
  | (k, v) :: fs =>
    ',' :: newline level ++ quote k ++ ':' :: ' ' :: indented level v ++ indentedMembers level fs

end

def pretty (v : Value) : String :=
  String.ofList (indented 0 v)

end Json
end FormTemplate
