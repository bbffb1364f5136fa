import FormTemplate.Unicode.CharSet
import FormTemplate.Yaml.Cursor

/-!
# Text — the scalars of a YAML stream

* `plain?` — a scalar without quotes;
* `quoted?` — a scalar in single or double quotes;
* `block?` — a literal or folded scalar below its header.

In scalars that go over several lines a single break is folded into a space, and of several breaks
the first one is dropped; in literal scalars all breaks are kept.
-/

namespace FormTemplate
namespace Yaml

/-! ## Folding -/

/-- Blanks and breaks between two words: the blanks if there is no break, otherwise the first break
and those after it. -/
structure Gap where
  blanks : List Char := []
  broken : Bool := false
  first : List Char := []
  more : List Char := []

namespace Gap

/-- What a gap between two words amounts to. -/
def text (g : Gap) : List Char :=
  if !g.broken then g.blanks
  else if g.first.head? = some '\n' then (if g.more.isEmpty then [' '] else g.more)
  else g.first ++ g.more

/-- Reads blanks and breaks.  Blanks after a break are dropped; a tab among them that stands left of
`indent` is refused. -/
def read? (indent : Int) : Nat → Gap → Cursor → Option (Gap × Cursor)
  | 0, g, c => some (g, c)
  | fuel + 1, g, c =>
    match c.head? with
    | none => some (g, c)
    | some d =>
      if isBlank d then
        if g.broken then
          if d = '\t' ∧ (c.column : Int) < indent then none else read? indent fuel g (c.skip 1)
        else read? indent fuel { g with blanks := g.blanks ++ [d] } (c.skip 1)
      else if isBreak d then
        let (s, c) := c.takeBreak
        let g := if g.broken then { g with more := g.more ++ s } else ⟨[], true, s, g.more⟩
        read? indent fuel g c
      else some (g, c)

end Gap

/-! ## Plain scalars -/

def isFlowIndicator (c : Char) : Bool :=
  c == ',' || c == '[' || c == ']' || c == '{' || c == '}'

/-- The characters of a plain scalar up to a blank, a break or an indicator.  Inside of brackets a
colon right before an indicator is refused. -/
def plainWord? (inFlow : Bool) : List Char → Option (List Char)
  | [] => some []
  | c :: t =>
    if isBlankOrBreak c then some []
    else if inFlow ∧ isFlowIndicator c then some []
    else if c = ':' ∧ t.head?.all isBlankOrBreak then some []
    else if c = ':' ∧ inFlow ∧ t.head?.any (fun d => isFlowIndicator d || d == '?') then none
    else (plainWord? inFlow t).map (c :: ·)

/-- A plain scalar after the text and the gap before this place.  The result says whether line
breaks follow the scalar. -/
def plainFrom? (inFlow : Bool) (indent : Int) :
    Nat → List Char → Gap → Cursor → Option (List Char × Bool × Cursor)
  | 0, s, g, c => some (s, g.broken, c)
  | fuel + 1, s, g, c =>
    if c.isDocumentMark || c.isAt (· == '#') then some (s, g.broken, c)
    else
      (plainWord? inFlow c.rest).bind fun w =>
        let (s, g) := if w.isEmpty then (s, g) else (s ++ g.text ++ w, {})
        let c := c.skip w.length
        if !c.isAt isBlankOrBreak then some (s, g.broken, c)
        else
          (Gap.read? indent (c.rest.length + 1) g c).bind fun (g, c) =>
            if !inFlow ∧ (c.column : Int) < indent then some (s, g.broken, c)
            else plainFrom? inFlow indent fuel s g c

def plain? (inFlow : Bool) (indent : Int) (c : Cursor) : Option (List Char × Bool × Cursor) :=
  plainFrom? inFlow indent (c.rest.length + 1) [] {} c

/-! ## Quoted scalars -/

/-- The character of a one-letter escape. -/
def escapeChar? : Char → Option Char
  | '0' => some '\x00'
  | 'a' => some '\x07'
  | 'b' => some '\x08'
  | 't' => some '\t'
  | '\t' => some '\t'
  | 'n' => some '\n'
  | 'v' => some '\x0B'
  | 'f' => some '\x0C'
  | 'r' => some '\r'
  | 'e' => some '\x1B'
  | ' ' => some ' '
  | '"' => some '"'
  | '/' => some '/'
  | '\\' => some '\\'
  | 'N' => some (Char.ofNat 0x85)
  | '_' => some (Char.ofNat 0xA0)
  | 'L' => some (Char.ofNat 0x2028)
  | 'P' => some (Char.ofNat 0x2029)
  | _ => none

/-- How many hexadecimal digits follow the letter of an escape. -/
def escapeDigits? : Char → Option Nat
  | 'x' => some 2
  | 'u' => some 4
  | 'U' => some 8
  | _ => none

/-- The character of an escape after its backslash, and its length. -/
def escape? : List Char → Option (Char × Nat)
  | [] => none
  | c :: t =>
    match escapeDigits? c with
    | some n =>
      if t.length < n then none
      else (Unicode.hexValue? 0 (t.take n)).bind fun v =>
        if v.isValidChar then some (Char.ofNat v, n + 1) else none
    | none => (escapeChar? c).map fun d => (d, 1)

/-- How a word in quotes ends. -/
inductive WordEnd where
  /-- At a blank, a break, the closing quote or the end of the stream. -/
  | plain
  /-- At a backslash before a line break. -/
  | joined

/-- The characters of a quoted scalar up to a blank, a break or the closing quote. -/
def quotedWord? (quote : Char) : Nat → Cursor → Option (List Char × WordEnd × Cursor)
  | 0, c => some ([], .plain, c)
  | fuel + 1, c =>
    let push (d : Char) (n : Nat) : Option (List Char × WordEnd × Cursor) :=
      (quotedWord? quote fuel (c.skip n)).map fun (s, e, c) => (d :: s, e, c)
    match c.rest with
    | [] => some ([], .plain, c)
    | d :: t =>
      if isBlankOrBreak d then some ([], .plain, c)
      else if quote = '\'' ∧ d = '\'' ∧ t.head? = some '\'' then push '\'' 2
      else if d = quote then some ([], .plain, c)
      else if d = '\\' ∧ quote = '"' then
        if t.head?.any isBreak then some ([], .joined, (c.skip 1).takeBreak.2)
        else (escape? t).bind fun (e, n) => push e (n + 1)
      else push d 1

/-- A quoted scalar after the text before this place. -/
def quotedFrom? (quote : Char) : Nat → List Char → Cursor → Option (List Char × Cursor)
  | 0, _, _ => none
  | fuel + 1, s, c =>
    if c.isDocumentMark || c.atEnd then none
    else
      (quotedWord? quote (c.rest.length + 1) c).bind fun (w, e, c) =>
        let s := s ++ w
        if c.isAt (· == quote) then some (s, c.skip 1)
        else
          let g : Gap :=
            match e with
            | .plain => {}
            | .joined => { broken := true }
          (Gap.read? (-1) (c.rest.length + 1) g c).bind fun (g, c) =>
            quotedFrom? quote fuel (s ++ g.text) c

/-- A quoted scalar after its opening quote. -/
def quoted? (quote : Char) (c : Cursor) : Option (List Char × Cursor) :=
  quotedFrom? quote (c.rest.length + 1) [] c

/-! ## Block scalars -/

/-- What becomes of the breaks at the end of a block scalar. -/
inductive Chomping where
  | strip
  | clip
  | keep

structure BlockHeader where
  chomping : Chomping := .clip
  /-- The indentation that the header names. -/
  increment : Option Nat := none

def chomping? : Char → Option Chomping
  | '-' => some .strip
  | '+' => some .keep
  | _ => none

/-- An indentation from one to nine; the inner result is missing for a zero. -/
def increment? (c : Char) : Option (Option Nat) :=
  if '1' ≤ c && c ≤ '9' then some (some (c.toNat - '0'.toNat))
  else if c = '0' then some none
  else none

/-- The marks of a header in either order. -/
def blockHeader? (c : Cursor) : Option (BlockHeader × Cursor) :=
  let signed (c : Cursor) : Chomping × Cursor :=
    match c.head?.bind chomping? with
    | some k => (k, c.skip 1)
    | none => (.clip, c)
  match c.head?.bind increment? with
  | some none => none
  | some (some n) =>
    let (k, c) := signed (c.skip 1)
    some (⟨k, some n⟩, c)
  | none =>
    match c.head?.bind chomping? with
    | none => some ({}, c)
    | some k =>
      match (c.skip 1).head?.bind increment? with
      | some none => none
      | some (some n) => some (⟨k, some n⟩, c.skip 2)
      | none => some (⟨k, none⟩, c.skip 1)

/-- Passes over the rest of a line that may hold a comment. -/
def restOfLine? (c : Cursor) : Option Cursor :=
  let c := (c.takeWhile isBlank).2
  let c := if c.isAt (· == '#') then (c.takeWhile fun _ => true).2 else c
  if c.atEnd then some c
  else if c.isAt isBreak then some c.takeBreak.2
  else none

/-- Reads indentation and empty lines: the breaks, the widest indentation and the place after them.
Without a known indentation all spaces are passed over. -/
def emptyLines? (indent : Option Nat) :
    Nat → List Char → Nat → Cursor → Option (List Char × Nat × Cursor)
  | 0, s, widest, c => some (s, widest, c)
  | fuel + 1, s, widest, c =>
    let spaces := (c.rest.takeWhile (· == ' ')).length
    let c := c.skip ((indent.map fun n => min spaces (n - c.column)).getD spaces)
    let widest := max widest c.column
    if c.isAt (· == '\t') && indent.all (c.column < ·) then none
    else if c.isAt isBreak then
      let (b, c) := c.takeBreak
      emptyLines? indent fuel (s ++ b) widest c
    else some (s, widest, c)

/-- The lines of a block scalar.  `pending` is the break after the last line, `breaks` are those of
the empty lines after it, and `blank` says whether the last line started with a blank. -/
def blockLines? (folded : Bool) (indent : Nat) :
    Nat → List Char → List Char → List Char → Bool → Cursor →
      Option (List Char × List Char × List Char × Cursor)
  | 0, s, pending, breaks, _, c => some (s, pending, breaks, c)
  | fuel + 1, s, pending, breaks, blank, c =>
    if c.column ≠ indent ∨ c.atEnd then some (s, pending, breaks, c)
    else
      let startsBlank := c.isAt isBlank
      let joint :=
        if folded && pending.head? == some '\n' && !blank && !startsBlank then
          (if breaks.isEmpty then [' '] else [])
        else pending
      let (w, c) := c.takeWhile fun _ => true
      let (pending, c) := c.takeBreak
      (emptyLines? (some indent) (c.rest.length + 1) [] 0 c).bind fun (more, _, next) =>
        blockLines? folded indent fuel (s ++ joint ++ breaks ++ w) pending more startsBlank next

/-- A block scalar after its sign, inside of a collection that is indented by `parent`. -/
def block? (folded : Bool) (parent : Int) (c : Cursor) : Option (List Char × Cursor) :=
  (blockHeader? c).bind fun (h, c) =>
    (restOfLine? c).bind fun c =>
      let fuel := c.rest.length + 1
      let given := h.increment.map fun n => if 0 ≤ parent then parent.toNat + n else n
      (emptyLines? given fuel [] 0 c).bind fun (breaks, widest, c) =>
        let indent := given.getD (max (max widest (parent + 1).toNat) 1)
        (blockLines? folded indent fuel [] [] breaks false c).map fun (s, pending, breaks, c) =>
          match h.chomping with
          | .strip => (s, c)
          | .clip => (s ++ pending, c)
          | .keep => (s ++ pending ++ breaks, c)

end Yaml
end FormTemplate
