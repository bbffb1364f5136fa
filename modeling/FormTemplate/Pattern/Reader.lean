import FormTemplate.Pattern.Bracket
import FormTemplate.Text.Split

/-!
# Reader — the notation of patterns

`Pattern.read?` reads a pattern.  Beside literals, dots, brackets, escapes and `^`, `$` there are

* alternatives, which `|` separates;
* repetitions `?`, `*`, `+`, `{n}`, `{n,}`, `{n,m}`, each with an optional further `?`;
* groups `(…)`, `(?<name>…)`, `(?P<name>…)`, `(?i:…)`, and switches `(?i)` that hold to the end of
  the group they stand in, alternatives included.

No two groups have one name, and the parts of a pattern nest at most `maxNesting` levels.  There are
neither looks at more than one character nor references to groups.
-/

namespace FormTemplate
namespace Pattern

/-- How deep repetitions, groups, brackets, sequences and alternatives nest at most. -/
def maxNesting : Nat := 250

/-- A pattern and how deep its notation nests. -/
structure Term where
  pattern : Pattern Atom
  depth : Nat

namespace Term

def leaf (p : Pattern Atom) : Term := ⟨p, 0⟩

/-- One level above some terms, unless there is only one. -/
def joined (join : List (Pattern Atom) → Pattern Atom) : List Term → Term
  | [] => ⟨.empty, 0⟩
  | [t] => t
  | ts => ⟨join (ts.map Term.pattern), (ts.map Term.depth).foldl max 0 + 1⟩

end Term

/-- An element of a sequence; a setting of switches cannot be repeated. -/
inductive Element where
  | term (t : Term)
  | switches

namespace Element

def toTerm : Element → Term
  | term t => t
  | switches => .leaf .empty

end Element

structure ReaderState where
  rest : List Char
  flags : Flags
  /-- The names of the groups so far. -/
  names : List (List Char)

/-! ## Leaves -/

def char (f : Flags) (c : Char) : Pattern Atom :=
  .atom (.oneOf (f.fold (.singleton c)))

def Escape.pattern (f : Flags) : Escape → Pattern Atom
  | literal c => char f c
  | set s => .atom (.oneOf s)
  | look l => .atom (.look l)

/-- A part that is neither bracketed nor a group, and the text after it. -/
def leaf? (f : Flags) : List Char → Option (Pattern Atom × List Char)
  | [] => none
  | '\\' :: t => (escape? f t).map fun (e, rest) => (e.pattern f, rest)
  | '.' :: t => f.dot?.map fun s => (.atom (.oneOf s), t)
  | '^' :: t => some (.atom (.look (.lineStart f.ends)), t)
  | '$' :: t => some (.atom (.look (.lineEnd f.ends)), t)
  | c :: t => some (char f c, t)

/-! ## Repetitions -/

/-- The question mark after a repetition, which asks for the shortest match. -/
def skipLazy : List Char → List Char
  | '?' :: t => t
  | t => t

/-- Digits, in a verbose pattern with blanks among them, and what follows. -/
def spacedDigits (f : Flags) : Nat → List Char → List Char × List Char
  | 0, t => ([], t)
  | _ + 1, [] => ([], [])
  | fuel + 1, c :: t =>
    if Text.isDigit c then
      let (ds, rest) := spacedDigits f fuel (f.skip t)
      (c :: ds, rest)
    else ([], c :: t)

def maxCount : Nat := 4294967295

/-- A count, if there is one, and the text after it and the blanks around it. -/
def count (f : Flags) (t : List Char) : Option Nat × List Char :=
  let t := Text.trimStart t
  let (ds, rest) := spacedDigits f (t.length + 1) t
  ((Text.readNat? ds).filter fun n => n ≤ maxCount, f.skip (Text.trimStart rest))

/-- The limits of a counted repetition after its opening brace. -/
def counts? (f : Flags) (t : List Char) : Option ((Nat × Option Nat) × List Char) :=
  match count f (f.skip t) with
  | (lo, ',' :: t) =>
    match f.skip t with
    | '}' :: rest => lo.map fun lo => ((lo, none), skipLazy (f.skip rest))
    | t =>
      match lo, count f t with
      | some lo, (some hi, '}' :: rest) =>
        if lo ≤ hi then some ((lo, some hi), skipLazy (f.skip rest)) else none
      | _, _ => none
  | (some n, '}' :: rest) => some ((n, some n), skipLazy (f.skip rest))
  | _ => none

/-- Repeats the last element, which the list has first. -/
def repeatLast? (lo : Nat) (hi : Option Nat) : List Element → Option (List Element)
  | .term t :: es => some (.term ⟨.repetition t.pattern lo hi, t.depth + 1⟩ :: es)
  | _ => none

/-! ## Groups -/

/-- Whether a character may stand in the name of a group. -/
def isNameChar (first : Bool) (c : Char) : Bool :=
  c == '_' || Unicode.isAlphabetic c ||
    (!first && (c == '.' || c == '[' || c == ']' || Unicode.isNumeric c))

def isGroupName : List Char → Bool
  | [] => false
  | c :: t => isNameChar true c && t.all (isNameChar false)

/-- The kind of a group by what follows its opening sign. -/
inductive Opening where
  | capture (s : ReaderState)
  /-- A group for grouping only, with switches of its own. -/
  | plain (s : ReaderState)
  /-- Switches for the rest of the enclosing group. -/
  | switches (s : ReaderState)

/-- A group name up to its closing sign. -/
def named? (s : ReaderState) (t : List Char) : Option Opening :=
  match t.dropWhile fun c => c != '>' with
  | [] => none
  | _ :: rest =>
    let name := t.takeWhile fun c => c != '>'
    if isGroupName name && !s.names.contains name then
      some (.capture { s with rest, names := name :: s.names })
    else none

def opening? (s : ReaderState) : Option Opening :=
  match s.flags.skip s.rest with
  | '?' :: '=' :: _ => none
  | '?' :: '!' :: _ => none
  | '?' :: '<' :: '=' :: _ => none
  | '?' :: '<' :: '!' :: _ => none
  | '?' :: 'P' :: '<' :: t => named? s t
  | '?' :: '<' :: t => named? s t
  | '?' :: t =>
    match s.flags.readRow? true [] t with
    | some (flags, ':' :: rest) => some (.plain { s with rest, flags })
    | some (flags, ')' :: rest) =>
      if rest.length + 1 = t.length then none else some (.switches { s with rest, flags })
    | _ => none
  | rest => some (.capture { s with rest })

/-! ## Patterns -/

mutual

/-- The alternatives up to the end of the group. -/
def alternatives? : Nat → ReaderState → Option (List Term × ReaderState)
  | 0, _ => none
  | fuel + 1, s =>
    (elements? fuel [] s).bind fun (es, s) =>
      let branch := Term.joined sequence (es.reverse.map Element.toTerm)
      match s.rest with
      | '|' :: rest =>
        (alternatives? fuel { s with rest }).map fun (bs, s) => (branch :: bs, s)
      | _ => some ([branch], s)

/-- The elements up to the end of the alternative, the last one first. -/
def elements? (fuel : Nat) (es : List Element) (s : ReaderState) :
    Option (List Element × ReaderState) :=
  match fuel with
  | 0 => none
  | fuel + 1 =>
    let s := { s with rest := s.flags.skip s.rest }
    let again (e : Option (List Element × List Char)) : Option (List Element × ReaderState) :=
      e.bind fun (es, rest) => elements? fuel es { s with rest }
    match s.rest with
    | [] => some (es, s)
    | '|' :: _ => some (es, s)
    | ')' :: _ => some (es, s)
    | '?' :: t => again ((repeatLast? 0 (some 1) es).map fun es => (es, skipLazy t))
    | '*' :: t => again ((repeatLast? 0 none es).map fun es => (es, skipLazy t))
    | '+' :: t => again ((repeatLast? 1 none es).map fun es => (es, skipLazy t))
    | '{' :: t =>
      again ((counts? s.flags t).bind fun ((lo, hi), rest) =>
        (repeatLast? lo hi es).map fun es => (es, rest))
    | '[' :: t =>
      again ((bracket? s.flags (2 * t.length + 2) t).map fun (n, rest) =>
        (.term ⟨.atom (.oneOf n.set), n.depth⟩ :: es, rest))
    | '(' :: rest =>
      (group? fuel { s with rest }).bind fun (e, s) => elements? fuel (e :: es) s
    | t => again ((leaf? s.flags t).map fun (p, rest) => (.term (.leaf p) :: es, rest))

/-- A group after its opening parenthesis.  The switches that were set inside end with it. -/
def group? : Nat → ReaderState → Option (Element × ReaderState)
  | 0, _ => none
  | fuel + 1, s =>
    let body (wrap : Pattern Atom → Pattern Atom) (inner : ReaderState) :
        Option (Element × ReaderState) :=
      (alternatives? fuel inner).bind fun (bs, e) =>
        match e.rest with
        | ')' :: rest =>
          let t := Term.joined choice bs
          some (.term ⟨wrap t.pattern, t.depth + 1⟩, { s with rest, names := e.names })
        | _ => none
    (opening? s).bind fun o =>
      match o with
      | .capture inner => body .group inner
      | .plain inner => body id inner
      | .switches inner => some (.switches, inner)

end

/-- The pattern that a text denotes. -/
def read? (text : List Char) : Option (Pattern Atom) :=
  (alternatives? (3 * text.length + 3) ⟨text, {}, []⟩).bind fun (bs, s) =>
    let t := Term.joined choice bs
    if s.rest.isEmpty && t.depth ≤ maxNesting then some t.pattern else none

end Pattern
end FormTemplate
