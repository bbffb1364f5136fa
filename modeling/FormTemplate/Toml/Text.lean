import FormTemplate.Text.Split
import FormTemplate.Unicode.CharSet

/-!
# Text — keys and strings of TOML documents

* `endOfLine?` — blanks, a comment and the end of a line;
* `keyPath?` — a bare, quoted or dotted key;
* `string?` — a string in one of four forms: basic or literal, on one or several lines.

Control characters other than tabs stand in no string and no comment.
-/

namespace FormTemplate
namespace Toml

/-! ## Blanks and lines -/

def isBlank (c : Char) : Bool :=
  c == ' ' || c == '\t'

def isControl (c : Char) : Bool :=
  (c.toNat < 0x20 && c != '\t') || c.toNat == 0x7F

def skipBlanks (t : List Char) : List Char :=
  t.dropWhile isBlank

/-- The text after a line end, which is a line feed with or without a carriage return. -/
def newline? : List Char → Option (List Char)
  | '\n' :: t => some t
  | '\r' :: '\n' :: t => some t
  | _ => none

/-- The text from the end of a comment on; the sign of the comment has been read. -/
def comment? : List Char → Option (List Char)
  | [] => some []
  | '\n' :: t => some ('\n' :: t)
  | '\r' :: '\n' :: t => some ('\n' :: t)
  | c :: t => if isControl c then none else comment? t

/-- Blanks and a comment. -/
def skipComment? (t : List Char) : Option (List Char) :=
  match skipBlanks t with
  | '#' :: t => comment? t
  | t => some t

/-- The next line, if there is nothing else on this one. -/
def endOfLine? (t : List Char) : Option (List Char) :=
  (skipComment? t).bind fun t => if t.isEmpty then some [] else newline? t

/-- Blanks, comments and line ends, as many as there are. -/
def skipLines? : Nat → List Char → Option (List Char)
  | 0, t => some t
  | fuel + 1, t =>
    (skipComment? t).bind fun t =>
      match newline? t with
      | some t => skipLines? fuel t
      | none => some t

/-! ## Strings -/

/-- A row of hexadecimal digits as a character. -/
def hexChar? (ds : List Char) : Option Char :=
  (Unicode.hexValue? 0 ds).bind fun n => if n.isValidChar then some (Char.ofNat n) else none

/-- The character of an escape, after its backslash, and the text after it. -/
def escape? : List Char → Option (Char × List Char)
  | 'b' :: t => some ('\x08', t)
  | 't' :: t => some ('\t', t)
  | 'n' :: t => some ('\n', t)
  | 'f' :: t => some ('\x0C', t)
  | 'r' :: t => some ('\r', t)
  | 'e' :: t => some ('\x1B', t)
  | '"' :: t => some ('"', t)
  | '\\' :: t => some ('\\', t)
  | 'x' :: t => digits 2 t
  | 'u' :: t => digits 4 t
  | 'U' :: t => digits 8 t
  | _ => none
where
  digits (n : Nat) (t : List Char) : Option (Char × List Char) :=
    if t.length < n then none else (hexChar? (t.take n)).map fun c => (c, t.drop n)

/-- A basic string on one line, up to its closing quote. -/
def basic? : Nat → List Char → Option (List Char × List Char)
  | 0, _ => none
  | _, [] => none
  | _, '"' :: rest => some ([], rest)
  | fuel + 1, '\\' :: t =>
    (escape? t).bind fun (c, t) => (basic? fuel t).map fun (s, rest) => (c :: s, rest)
  | fuel + 1, c :: t =>
    if isControl c then none else (basic? fuel t).map fun (s, rest) => (c :: s, rest)

/-- A literal string on one line, up to its closing quote. -/
def literal? : List Char → Option (List Char × List Char)
  | [] => none
  | '\'' :: rest => some ([], rest)
  | c :: t => if isControl c then none else (literal? t).map fun (s, rest) => (c :: s, rest)

/-- What follows a backslash that joins lines: everything up to the next visible character. -/
def joinLines? (t : List Char) : Option (List Char) :=
  (newline? (skipBlanks t)).map fun t =>
    t.dropWhile fun c => isBlank c || c == '\n' || c == '\r'

/-- A string over several lines, up to three closing quotes.  One or two quotes in front of these
belong to the string, and a basic string has escapes. -/
def lines? (quote : Char) : Nat → List Char → Option (List Char × List Char)
  | 0, _ => none
  | _, [] => none
  | fuel + 1, c :: t =>
    if c = quote then
      let run := (c :: t).takeWhile fun d => d == quote
      let rest := (c :: t).dropWhile fun d => d == quote
      if run.length < 3 then (lines? quote fuel rest).map fun (s, rest) => (run ++ s, rest)
      else
        let extra := min (run.length - 3) 2
        some (run.take extra, run.drop (extra + 3) ++ rest)
    else if c = '\\' ∧ quote = '"' then
      match joinLines? t with
      | some t => lines? quote fuel t
      | none =>
        (escape? t).bind fun (c, t) => (lines? quote fuel t).map fun (s, rest) => (c :: s, rest)
    else
      match newline? (c :: t) with
      | some t => (lines? quote fuel t).map fun (s, rest) => ('\n' :: s, rest)
      | none =>
        if isControl c then none
        else (lines? quote fuel t).map fun (s, rest) => (c :: s, rest)

/-- A string of any form and the text after it. -/
def string? (t : List Char) : Option (List Char × List Char) :=
  let fuel := t.length + 1
  match t with
  | '"' :: '"' :: '"' :: t => lines? '"' fuel ((newline? t).getD t)
  | '\'' :: '\'' :: '\'' :: t => lines? '\'' fuel ((newline? t).getD t)
  | '"' :: t => basic? fuel t
  | '\'' :: t => literal? t
  | _ => none

/-! ## Keys -/

def isBareKeyChar (c : Char) : Bool :=
  c.isAlphanum || c == '_' || c == '-'

/-- A part of a key and the text after it. -/
def keyPart? (t : List Char) : Option (String × List Char) :=
  match t with
  | '"' :: t => (basic? (t.length + 1) t).map fun (s, rest) => (String.ofList s, rest)
  | '\'' :: t => (literal? t).map fun (s, rest) => (String.ofList s, rest)
  | t =>
    let s := t.takeWhile isBareKeyChar
    if s.isEmpty then none else some (String.ofList s, t.dropWhile isBareKeyChar)

/-- A key, which is a last part with the parts that lead to it, and the text after it. -/
def keyPath? : Nat → List Char → Option ((List String × String) × List Char)
  | 0, _ => none
  | fuel + 1, t =>
    (keyPart? (skipBlanks t)).bind fun (k, t) =>
      match skipBlanks t with
      | '.' :: t => (keyPath? fuel t).map fun ((path, last), rest) => ((k :: path, last), rest)
      | rest => some (([], k), rest)

end Toml
end FormTemplate
