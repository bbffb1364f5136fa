import FormTemplate.Text.Split

/-!
# Cursor — a place in a YAML stream

* `Cursor` — the text that is left, with its line and column;
* `isBreak`, `isBlank` — line breaks, and spaces and tabs;
* `takeBreak` — what a line break is read as: a line feed, except that the line and paragraph
  separators stay themselves.
-/

namespace FormTemplate
namespace Yaml

/-! ## Characters -/

def isBlank (c : Char) : Bool :=
  c == ' ' || c == '\t'

def isBreak (c : Char) : Bool :=
  c == '\n' || c == '\r' || c.toNat == 0x85 || c.toNat == 0x2028 || c.toNat == 0x2029

def isBlankOrBreak (c : Char) : Bool :=
  isBlank c || isBreak c

/-- Whether a stream may hold a character. -/
def isAllowed (c : Char) : Bool :=
  let n := c.toNat
  n == 0x09 || n == 0x0A || n == 0x0D || (0x20 ≤ n && n ≤ 0x7E) || n == 0x85 ||
    (0xA0 ≤ n && n ≤ 0xFFFD) || 0x10000 ≤ n

/-! ## Cursors -/

structure Cursor where
  rest : List Char
  /-- The number of characters before this place. -/
  index : Nat := 0
  line : Nat := 0
  column : Nat := 0

namespace Cursor

def head? (c : Cursor) : Option Char :=
  c.rest.head?

/-- Passes over some characters of a line. -/
def skip (n : Nat) (c : Cursor) : Cursor :=
  { c with rest := c.rest.drop n, index := c.index + n, column := c.column + n }

/-- Whether a blank, a break or the end follows some characters. -/
def endsAt (n : Nat) (c : Cursor) : Bool :=
  (c.rest.drop n).head?.all isBlankOrBreak

def atEnd (c : Cursor) : Bool :=
  c.rest.isEmpty

def isAt (p : Char → Bool) (c : Cursor) : Bool :=
  c.head?.any p

/-- The text of a line break and the place after it; there is no text without a break. -/
def takeBreak (c : Cursor) : List Char × Cursor :=
  let next (n : Nat) (rest : List Char) : Cursor := ⟨rest, c.index + n, c.line + 1, 0⟩
  match c.rest with
  | '\r' :: '\n' :: t => (['\n'], next 2 t)
  | d :: t =>
    if !isBreak d then ([], c)
    else if d.toNat = 0x2028 ∨ d.toNat = 0x2029 then ([d], next 1 t)
    else (['\n'], next 1 t)
  | [] => ([], c)

/-- The characters of a line up to the first that does not fit, and the place of that one. -/
def takeWhile (p : Char → Bool) (c : Cursor) : List Char × Cursor :=
  let cs := c.rest.takeWhile fun d => !isBreak d && p d
  (cs, c.skip cs.length)

/-- Whether a line starts here with one of two marks that stand between documents. -/
def isDocumentMark (c : Cursor) : Bool :=
  c.column == 0 && c.endsAt 3 &&
    (Text.startsWith ['-', '-', '-'] c.rest || Text.startsWith ['.', '.', '.'] c.rest)

end Cursor
end Yaml
end FormTemplate
