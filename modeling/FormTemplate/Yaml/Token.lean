import FormTemplate.Yaml.Text

/-!
# Token — the marks and scalars of a YAML stream

`Yaml.tokens?` cuts a stream into tokens.  Indentation becomes tokens that start and end blocks,
and a key that has no mark of its own gets one when the colon after it is found: until then its
place is remembered as that of a possible key, which must be on one line and not too long.
-/

namespace FormTemplate
namespace Yaml

/-- A tag: a handle such as `!` or `!!` and what follows it; without a handle it is complete. -/
structure Tag where
  handle : List Char
  suffix : List Char

inductive Token where
  | streamEnd
  | versionDirective
  | tagDirective (handle pre : List Char)
  | documentStart
  | documentEnd
  | blockSequenceStart
  | blockMappingStart
  | blockEnd
  | flowSequenceStart
  | flowSequenceEnd
  | flowMappingStart
  | flowMappingEnd
  | blockEntry
  | flowEntry
  | key
  | value
  | alias (name : List Char)
  | anchor (name : List Char)
  | tag (t : Tag)
  | scalar (plain : Bool) (text : List Char)

/-! ## Possible keys -/

/-- Where a key starts, should a colon follow. -/
structure PossibleKey where
  /-- The number of tokens before it. -/
  token : Nat
  line : Nat
  index : Nat
  column : Nat
  /-- Whether a colon has to follow. -/
  required : Bool

/-- The length that a key may have. -/
def maxKeyLength : Nat := 1024

structure Scanner where
  cursor : Cursor
  tokens : Array Token := #[]
  /-- The column of the innermost block, and those of the blocks around it. -/
  indent : Int := -1
  outer : List Int := []
  /-- The possible key of each level of brackets, the innermost first, then that of the block. -/
  keys : List (Option PossibleKey) := [none]
  /-- Whether a key may start here. -/
  keyAllowed : Bool := true

namespace Scanner

def inFlow (s : Scanner) : Bool :=
  1 < s.keys.length

def push (t : Token) (s : Scanner) : Scanner :=
  { s with tokens := s.tokens.push t }

def insert (i : Nat) (t : Token) (s : Scanner) : Scanner :=
  { s with tokens := s.tokens.insertIdxIfInBounds i t }

def moveTo (c : Cursor) (s : Scanner) : Scanner :=
  { s with cursor := c }

/-- Adds a token for some characters. -/
def take (n : Nat) (t : Token) (s : Scanner) : Scanner :=
  { s.push t with cursor := s.cursor.skip n }

def allowKey (b : Bool) (s : Scanner) : Scanner :=
  { s with keyAllowed := b }

/-- Gives up the innermost possible key, which fails if a colon had to follow. -/
def dropKey? (s : Scanner) : Option Scanner :=
  match s.keys with
  | some k :: ks => if k.required then none else some { s with keys := none :: ks }
  | _ => some s

/-- Remembers this place as that of a possible key. -/
def markKey? (s : Scanner) : Option Scanner :=
  if !s.keyAllowed then some s
  else
    s.dropKey?.map fun s =>
      let c := s.cursor
      let k : PossibleKey :=
        ⟨s.tokens.size, c.line, c.index, c.column, !s.inFlow && s.indent == (c.column : Int)⟩
      { s with keys := some k :: s.keys.tail }

/-- Gives up the possible keys that a colon can no longer follow. -/
def dropStale? (s : Scanner) : Option Scanner :=
  let c := s.cursor
  let isStale (k : PossibleKey) : Bool := k.line < c.line || k.index + maxKeyLength < c.index
  let check (k? : Option PossibleKey) : Option (Option PossibleKey) :=
    match k? with
    | some k => if !isStale k then some (some k) else if k.required then none else some none
    | none => some none
  (s.keys.mapM check).map fun keys => { s with keys }

/-! ## Indentation -/

/-- Ends the blocks that are indented by more than a column. -/
def unroll (column : Int) (s : Scanner) : Scanner :=
  if s.inFlow then s else go s.outer s
where
  go : List Int → Scanner → Scanner
    | [], s => s
    | i :: is, s =>
      if column < s.indent then go is { s.push .blockEnd with indent := i, outer := is } else s

/-- Starts a block if a column is indented by more than the innermost one.  The token goes to the
end, or before the token of a key. -/
def roll (column : Nat) (place : Option Nat) (t : Token) (s : Scanner) : Scanner :=
  if s.inFlow || (column : Int) ≤ s.indent then s
  else
    let s := { s with indent := column, outer := s.indent :: s.outer }
    match place with
    | some i => s.insert i t
    | none => s.push t

end Scanner

/-! ## Blanks and comments -/

/-- Passes over blanks, comments and breaks.  Where a key may start a tab is not passed over. -/
def skipToToken : Nat → Scanner → Scanner
  | 0, s => s
  | fuel + 1, s =>
    let tabs := s.inFlow || !s.keyAllowed
    let c := (s.cursor.takeWhile fun d => d == ' ' || (tabs && d == '\t')).2
    let c := if c.isAt (· == '#') then (c.takeWhile fun _ => true).2 else c
    let s := s.moveTo c
    if c.isAt isBreak then
      let s := s.moveTo c.takeBreak.2
      skipToToken fuel (if s.inFlow then s else s.allowKey true)
    else s

/-! ## Names, tags and directives -/

def isNameChar (c : Char) : Bool :=
  c.isAlphanum || c == '_' || c == '-'

/-- The name of an anchor or alias, and its length. -/
def anchorName? (t : List Char) : Option (List Char) :=
  let name := t.takeWhile isNameChar
  let ends := (t.drop name.length).head?.all fun c =>
    isBlankOrBreak c || c == '?' || c == ':' || c == ',' || c == ']' || c == '}' || c == '%' ||
      c == '@' || c == '`'
  if name.isEmpty || !ends then none else some name

def isUriChar (verbatim : Bool) (c : Char) : Bool :=
  isNameChar c || ";/?:@&=+$.%!~*'()".toList.contains c ||
    (verbatim && (c == ',' || c == '[' || c == ']'))

/-- The characters of a tag, with escapes of bytes replaced, and the number of characters that they
take.  Only escapes of ASCII characters are known. -/
def uri? (verbatim : Bool) : List Char → Option (List Char × Nat)
  | [] => some ([], 0)
  | '%' :: a :: b :: t =>
    (Unicode.hexValue? 0 [a, b]).bind fun n =>
      if n < 0x80 then (uri? verbatim t).map fun (s, k) => (Char.ofNat n :: s, k + 3) else none
  | c :: t =>
    if c = '%' then none
    else if isUriChar verbatim c then (uri? verbatim t).map fun (s, k) => (c :: s, k + 1)
    else some ([], 0)

/-- A handle that starts with an exclamation mark; it ends with another one if there is one. -/
def tagHandle (t : List Char) : List Char :=
  let name := t.tail.takeWhile isNameChar
  let close := (t.drop (name.length + 1)).head? == some '!'
  '!' :: name ++ (if close then ['!'] else [])

/-- A tag and its length. -/
def tag? (t : List Char) : Option (Tag × Nat) :=
  match t with
  | '!' :: '<' :: u =>
    (uri? true u).bind fun (s, n) =>
      if s.isEmpty ∨ (u.drop n).head? ≠ some '>' then none else some (⟨[], s⟩, n + 3)
  | t =>
    let handle := tagHandle t
    let u := t.drop handle.length
    if 1 < handle.length ∧ handle.getLast? = some '!' then
      (uri? false u).bind fun (s, n) =>
        if s.isEmpty then none else some (⟨handle, s⟩, handle.length + n)
    else
      (uri? false u).map fun (s, n) =>
        let suffix := handle.tail ++ s
        (if suffix.isEmpty then ⟨[], ['!']⟩ else ⟨['!'], suffix⟩, handle.length + n)

/-- The value of a row of digits and the text after it. -/
def digits? (t : List Char) : Option (Nat × List Char) :=
  let ds := t.takeWhile Char.isDigit
  if ds.isEmpty ∨ 9 < ds.length then none
  else some (ds.foldl (fun n d => 10 * n + (d.toNat - '0'.toNat)) 0, t.drop ds.length)

/-- A directive after its sign, and the text after it.  The versions 1.1 and 1.2 are known. -/
def directive? (t : List Char) : Option (Token × List Char) :=
  let name := t.takeWhile isNameChar
  let t := t.drop name.length
  let arguments := t.dropWhile isBlank
  if !(t.head?.all isBlankOrBreak) then none
  else if name = ['Y', 'A', 'M', 'L'] then
    (digits? arguments).bind fun
      | (1, '.' :: t) =>
        (digits? t).bind fun (minor, rest) =>
          if minor = 1 ∨ minor = 2 then some (.versionDirective, rest) else none
      | _ => none
  else if name = ['T', 'A', 'G'] ∧ arguments.head? = some '!' then
    let handle := tagHandle arguments
    let t := arguments.drop handle.length
    if (handle.length ≠ 1 ∧ handle.getLast? ≠ some '!') ∨ !(t.head?.any isBlank) then none
    else
      let t := t.dropWhile isBlank
      (uri? true t).bind fun (s, n) =>
        let rest := t.drop n
        if s.isEmpty ∨ !(rest.head?.all isBlankOrBreak) then none
        else some (.tagDirective handle s, rest)
  else none

/-! ## Tokens -/

namespace Scanner

/-- A mark at the start or the end of a document, or a directive. -/
def between? (s : Scanner) : Option Scanner :=
  (s.unroll (-1)).dropKey?.map (allowKey false)

def openFlow? (t : Token) (s : Scanner) : Option Scanner :=
  s.markKey?.map fun s => ({ s with keys := none :: s.keys }.allowKey true).take 1 t

def closeFlow? (t : Token) (s : Scanner) : Option Scanner :=
  s.dropKey?.map fun s =>
    (({ s with keys := if s.inFlow then s.keys.tail else s.keys }).allowKey false).take 1 t

def flowEntry? (s : Scanner) : Option Scanner :=
  s.dropKey?.map fun s => (s.allowKey true).take 1 .flowEntry

def blockEntry? (s : Scanner) : Option Scanner :=
  if !s.inFlow && !s.keyAllowed then none
  else
    (s.roll s.cursor.column none .blockSequenceStart).dropKey?.map fun s =>
      (s.allowKey true).take 1 .blockEntry

def key? (s : Scanner) : Option Scanner :=
  if !s.inFlow && !s.keyAllowed then none
  else
    (s.roll s.cursor.column none .blockMappingStart).dropKey?.map fun s =>
      (s.allowKey !s.inFlow).take 1 .key

/-- A colon, which makes a key of the possible key before it. -/
def value? (s : Scanner) : Option Scanner :=
  match s.keys with
  | some k :: ks =>
    let s := ({ s with keys := none :: ks }.insert k.token .key).roll k.column (some k.token)
      .blockMappingStart
    some ((s.allowKey false).take 1 .value)
  | _ =>
    if !s.inFlow && !s.keyAllowed then none
    else
      let s := s.roll s.cursor.column none .blockMappingStart
      some ((s.allowKey !s.inFlow).take 1 .value)

def name? (token : List Char → Token) (s : Scanner) : Option Scanner :=
  s.markKey?.bind fun s =>
    (anchorName? s.cursor.rest.tail).map fun name =>
      (s.allowKey false).take (name.length + 1) (token name)

def tagToken? (s : Scanner) : Option Scanner :=
  s.markKey?.bind fun s =>
    (tag? s.cursor.rest).bind fun (t, n) =>
      let next := s.cursor.skip n
      if (s.inFlow && next.isAt (· == ',')) || next.endsAt 0 then
        some ((s.allowKey false).take n (.tag t))
      else none

def blockScalar? (folded : Bool) (s : Scanner) : Option Scanner :=
  s.dropKey?.bind fun s =>
    (block? folded s.indent (s.cursor.skip 1)).map fun (text, c) =>
      ((s.allowKey true).push (.scalar false text)).moveTo c

def quotedScalar? (quote : Char) (s : Scanner) : Option Scanner :=
  s.markKey?.bind fun s =>
    (quoted? quote (s.cursor.skip 1)).map fun (text, c) =>
      ((s.allowKey false).push (.scalar false text)).moveTo c

def plainScalar? (s : Scanner) : Option Scanner :=
  s.markKey?.bind fun s =>
    (plain? s.inFlow (s.indent + 1) s.cursor).map fun (text, broken, c) =>
      ((s.allowKey broken).push (.scalar true text)).moveTo c

def directiveToken? (s : Scanner) : Option Scanner :=
  s.between?.bind fun s =>
    (directive? s.cursor.rest.tail).bind fun (t, rest) =>
      let c := s.cursor
      (restOfLine? (c.skip (c.rest.length - rest.length))).map fun c => (s.push t).moveTo c

/-- Whether a plain scalar can start with a character that `next` follows. -/
def startsPlain (inFlow : Bool) (c : Char) (next : Option Char) : Bool :=
  let isIndicator := "-?:,[]\x7b\x7d#&*!|>'\"%@`".toList.contains c
  !(isBlankOrBreak c || isIndicator) || (c == '-' && !next.any isBlank) ||
    (!inFlow && (c == '?' || c == ':') && !next.all isBlankOrBreak)

/-- The next token, at a place that is not the end. -/
def token? (s : Scanner) (d : Char) : Option Scanner :=
  let c := s.cursor
  if c.column = 0 ∧ d = '%' then s.directiveToken?
  else if c.isDocumentMark then
    s.between?.map fun s => s.take 3 (if d = '-' then .documentStart else .documentEnd)
  else if d = '[' then s.openFlow? .flowSequenceStart
  else if d = '{' then s.openFlow? .flowMappingStart
  else if d = ']' then s.closeFlow? .flowSequenceEnd
  else if d = '}' then s.closeFlow? .flowMappingEnd
  else if d = ',' then s.flowEntry?
  else if d = '-' ∧ c.endsAt 1 then s.blockEntry?
  else if d = '?' ∧ (s.inFlow ∨ c.endsAt 1) then s.key?
  else if d = ':' ∧ (s.inFlow ∨ c.endsAt 1) then s.value?
  else if d = '*' then s.name? .alias
  else if d = '&' then s.name? .anchor
  else if d = '!' then s.tagToken?
  else if d = '|' ∧ !s.inFlow then s.blockScalar? false
  else if d = '>' ∧ !s.inFlow then s.blockScalar? true
  else if d = '\'' ∨ d = '"' then s.quotedScalar? d
  else if startsPlain s.inFlow d (c.skip 1).head? then s.plainScalar?
  else none

/-- All tokens up to the end of the stream. -/
def run? : Nat → Scanner → Option (Array Token)
  | 0, _ => none
  | fuel + 1, s =>
    ((skipToToken (s.cursor.rest.length + 1) s).dropStale?).bind fun s =>
      let s := s.unroll s.cursor.column
      match s.cursor.head? with
      | none => (s.unroll (-1)).dropKey?.map fun s => s.tokens.push .streamEnd
      | some d => (s.token? d).bind (run? fuel)

end Scanner

def byteOrderMark : Char := Char.ofNat 0xFEFF

/-- The tokens of a stream, the last of which is its end. -/
def tokens? (text : List Char) : Option (List Token) :=
  let text := if text.head? = some byteOrderMark then text.tail else text
  if text.all isAllowed then
    (Scanner.run? (text.length + 2) { cursor := { rest := text } }).map Array.toList
  else none

end Yaml
end FormTemplate
