import FormTemplate.Pattern.Flags
import FormTemplate.Text.Integer
import FormTemplate.Unicode.Lookup

/-!
# Escape — what stands after a backslash in a pattern

An escape is a literal character, a set of characters or a look.

* `x41`, `u0041`, `U00000041` and `x{41}` give a character by its code point;
* `d`, `s`, `w` and, negated, `D`, `S`, `W` are the digits, blanks and word characters;
* `pL`, `p{Greek}`, `p{sc=Greek}` and, negated, `P` are classes of Unicode;
* `A`, `z`, `b`, `B`, `<`, `>` and `b{start-half}` with its kin are looks.

Any other ASCII character that is neither a letter nor a digit stands for itself.
-/

namespace FormTemplate
namespace Pattern

inductive Escape where
  | literal (c : Char)
  | set (s : Unicode.CharSet)
  | look (l : Look)

/-! ## Characters by code point -/

/-- The character of a code point in hexadecimal digits, of which there is at least one. -/
def charOfHex? (ds : List Char) : Option Char :=
  if ds.isEmpty then none
  else (Unicode.hexValue? 0 ds).bind fun n =>
    if n.isValidChar then some (Char.ofNat n) else none

def isHexDigit (c : Char) : Bool :=
  (Unicode.hexDigit? c).isSome

/-- Exactly `n` hexadecimal digits. -/
def fixedHex? (f : Flags) : Nat → List Char → Option (List Char × List Char)
  | 0, t => some ([], t)
  | _ + 1, [] => none
  | n + 1, c :: t =>
    if isHexDigit c then (fixedHex? f n (f.skip t)).map fun (ds, rest) => (c :: ds, rest) else none

/-- The characters before a closing brace and the text after it. -/
def braced? (f : Flags) : Nat → List Char → Option (List Char × List Char)
  | 0, _ => none
  | fuel + 1, t =>
    match f.skip t with
    | [] => none
    | '}' :: rest => some ([], rest)
    | c :: t => (braced? f fuel t).map fun (cs, rest) => (c :: cs, rest)

/-- A code point after the letter of its escape, which says how many digits it has. -/
def hexEscape? (f : Flags) (letter : Char) (t : List Char) : Option (Escape × List Char) :=
  match f.skip t with
  | '{' :: t =>
    (braced? f (t.length + 1) t).bind fun (ds, rest) =>
      (charOfHex? ds).map fun c => (.literal c, f.skip rest)
  | t =>
    (fixedHex? f (if letter = 'x' then 2 else if letter = 'u' then 4 else 8) t).bind
      fun (ds, rest) =>
        (charOfHex? ds).bind fun c =>
          if letter = 'x' && !f.unicode && 0x7F < c.toNat then none else some (.literal c, rest)

/-! ## Sets -/

/-- The set of a letter such as `d`, and whether it is negated. -/
def letterSet? (unicode : Bool) : Char → Option (Bool × Unicode.CharSet)
  | 'd' => some (false, digit)
  | 'D' => some (true, digit)
  | 's' => some (false, space)
  | 'S' => some (true, space)
  | 'w' => some (false, word)
  | 'W' => some (true, word)
  | _ => none
where
  digit : Unicode.CharSet := if unicode then Unicode.digitSet else .range '0' '9'
  space : Unicode.CharSet :=
    if unicode then
      ⟨[⟨0x09, 0x0D⟩, ⟨0x20, 0x20⟩, ⟨0x85, 0x85⟩, ⟨0xA0, 0xA0⟩, ⟨0x1680, 0x1680⟩,
        ⟨0x2000, 0x200A⟩, ⟨0x2028, 0x2029⟩, ⟨0x202F, 0x202F⟩, ⟨0x205F, 0x205F⟩,
        ⟨0x3000, 0x3000⟩]⟩
    else ⟨[⟨0x09, 0x0D⟩, ⟨0x20, 0x20⟩]⟩
  word : Unicode.CharSet :=
    if unicode then Unicode.wordSet
    else ⟨[⟨0x30, 0x39⟩, ⟨0x41, 0x5A⟩, ⟨0x5F, 0x5F⟩, ⟨0x61, 0x7A⟩]⟩

/-- The letter sets are closed under changes of case, so they need no folding. -/
def letterEscape? (f : Flags) (negated : Bool) (s : Unicode.CharSet) : Option Escape :=
  if negated then (if f.unicode then some (.set s.compl) else none) else some (.set s)

/-- The set of a class between braces and whether it is negated there: `name`, `name=value`,
`name:value` or, negated, `name!=value`. -/
def bracedClass? (name : List Char) : Option (Bool × Unicode.CharSet) :=
  match Text.splitFirst ['!', '='] name with
  | some (property, value) => (Unicode.valueSet? property value).map fun s => (true, s)
  | none =>
    match (Text.splitFirst [':'] name).or (Text.splitFirst ['='] name) with
    | some (property, value) => (Unicode.valueSet? property value).map fun s => (false, s)
    | none => (Unicode.classSet? name).map fun s => (false, s)

/-- A class after its letter. -/
def classEscape? (f : Flags) (negated : Bool) (t : List Char) : Option (Escape × List Char) :=
  if !f.unicode then none
  else
    match f.skip t with
    | [] => none
    | '\\' :: _ => none
    | '{' :: t =>
      (braced? f (t.length + 1) t).bind fun (name, rest) =>
        (bracedClass? name).bind fun (inverse, s) =>
          (f.close? (negated != inverse) s).map fun s => (.set s, rest)
    | c :: t =>
      (Unicode.classSet? [c]).bind fun s =>
        (f.close? negated s).map fun s => (.set s, f.skip t)

/-! ## Looks -/

def isBoundaryNameChar (c : Char) : Bool :=
  c.isAlpha || c == '-'

/-- The characters of a boundary name and what follows them. -/
def boundaryName (f : Flags) : Nat → List Char → List Char × List Char
  | 0, t => ([], t)
  | _ + 1, [] => ([], [])
  | fuel + 1, c :: t =>
    if isBoundaryNameChar c then
      let (cs, rest) := boundaryName f fuel (f.skip t)
      (c :: cs, rest)
    else ([], c :: t)

/-- The look of a `b` and the text after it.  A brace that cannot start a boundary name is left
alone, since it may start a repetition count. -/
def boundary? (f : Flags) : List Char → Option (Escape × List Char)
  | '{' :: t =>
    match f.skip t with
    | [] => none
    | c :: u =>
      if isBoundaryNameChar c then
        match boundaryName f (u.length + 1) (c :: u) with
        | (name, '}' :: rest) =>
          let look? : Option Look :=
            match String.ofList name with
            | "start" => some (.wordStart f.unicode)
            | "end" => some (.wordEnd f.unicode)
            | "start-half" => some (.wordStartHalf f.unicode)
            | "end-half" => some (.wordEndHalf f.unicode)
            | _ => none
          look?.map fun l => (.look l, rest)
        | _ => none
      else some (.look (.wordBoundary f.unicode), '{' :: t)
  | t => some (.look (.wordBoundary f.unicode), t)

/-! ## Escapes -/

/-- The control character of a letter. -/
def controlChar? : Char → Option Char
  | 'a' => some '\x07'
  | 'f' => some '\x0C'
  | 't' => some '\t'
  | 'n' => some '\n'
  | 'r' => some '\r'
  | 'v' => some '\x0B'
  | _ => none

def lookOf? (f : Flags) : Char → Option Look
  | 'A' => some (.lineStart .none)
  | 'z' => some (.lineEnd .none)
  | 'B' => some (.noWordBoundary f.unicode)
  | '<' => some (.wordStart f.unicode)
  | '>' => some (.wordEnd f.unicode)
  | _ => none

/-- The escape after a backslash and the text after it. -/
def escape? (f : Flags) : List Char → Option (Escape × List Char)
  | [] => none
  | c :: t =>
    if c = 'x' || c = 'u' || c = 'U' then hexEscape? f c t
    else if c = 'p' || c = 'P' then classEscape? f (c == 'P') t
    else if c = 'b' then boundary? f t
    else
      match letterSet? f.unicode c with
      | some (negated, s) => (letterEscape? f negated s).map fun e => (e, t)
      | none =>
        match lookOf? f c with
        | some l => some (.look l, t)
        | none =>
          if c.toNat < 0x80 && !c.isAlphanum then some (.literal c, t)
          else (controlChar? c).map fun c => (.literal c, t)

end Pattern
end FormTemplate
