/-!
# Blank — the whitespace of template text

This file fixes the character class that padding, trimming and splitting agree on.

* `isBlank` — the Unicode property `White_Space`;
* `trimStart`, `trimEnd`, `trim` — removing blanks at one or both ends of a text;
* `trimString`, `blankString` — trimming, and the test for nothing but blanks, on strings.

Line feed is blank, so padding may cross a line end even where a body may not.
-/

namespace FormTemplate
namespace Text

/-- The characters with the Unicode property `White_Space`. -/
def isBlank (c : Char) : Bool :=
  let n := c.toNat
  (0x09 ≤ n && n ≤ 0x0D) || n == 0x20 || n == 0x85 || n == 0xA0 || n == 0x1680 ||
    (0x2000 ≤ n && n ≤ 0x200A) || n == 0x2028 || n == 0x2029 || n == 0x202F || n == 0x205F ||
    n == 0x3000

/-! ## Trimming -/

def trimStart (t : List Char) : List Char :=
  t.dropWhile isBlank

/-- The text without the blanks at its end. -/
def trimEnd : List Char → List Char
  | [] => []
  | c :: r =>
    match trimEnd r with
    | [] => if isBlank c then [] else [c]
    | d :: s => c :: d :: s

def trim (t : List Char) : List Char :=
  trimEnd (trimStart t)

/-- A text that has nothing but blanks. -/
def allBlank (t : List Char) : Bool :=
  t.all isBlank

/-! ## On strings -/

def trimString (s : String) : String :=
  String.ofList (trim s.toList)

def blankString (s : String) : Bool :=
  allBlank s.toList

end Text
end FormTemplate
