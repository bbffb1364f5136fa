import FormTemplate.Unicode.Lookup

/-!
# Width — how many columns a text takes

* `charWidth` — the columns of a character by itself: two for a wide one, none for marks that join
  the character before them and for invisible characters, and one for all others;
* `pictograph?` — a sequence of characters that is shown as one picture, two columns wide;
* `ligature?` — two letters that are always shown as one, in one column;
* `width` — the columns of a text of one line.
-/

namespace FormTemplate
namespace Unicode

/-! ## Single characters -/

/-- The code points whose East Asian width is wide or fullwidth. -/
def wideRows : List String :=
  ["1100-115F 231A-231B 2329-232A 23E9-23EC 23F0 23F3 25FD-25FE 2614-2615 2630-2637",
   "2648-2653 267F 268A-268F 2693 26A1 26AA-26AB 26BD-26BE 26C4-26C5 26CE 26D4 26EA",
   "26F2-26F3 26F5 26FA 26FD 2705 270A-270B 2728 274C 274E 2753-2755 2757 2795-2797 27B0",
   "27BF 2B1B-2B1C 2B50 2B55 2E80-2E99 2E9B-2EF3 2F00-2FD5 2FF0-303E 3041-3096 3099-30FF",
   "3105-312F 3131-318E 3190-31E5 31EF-321E 3220-3247 3250-A48C A490-A4C6 A960-A97C",
   "AC00-D7A3 F900-FAFF FE10-FE19 FE30-FE52 FE54-FE66 FE68-FE6B FF01-FF60 FFE0-FFE6",
   "16FE0-16FE4 16FF0-16FF6 17000-18CD5 18CFF-18D1E 18D80-18DF2 1AFF0-1AFF3 1AFF5-1AFFB",
   "1AFFD-1AFFE 1B000-1B122 1B132 1B150-1B152 1B155 1B164-1B167 1B170-1B2FB 1D300-1D356",
   "1D360-1D376 1F004 1F0CF 1F18E 1F191-1F19A 1F200-1F202 1F210-1F23B 1F240-1F248",
   "1F250-1F251 1F260-1F265 1F300-1F320 1F32D-1F335 1F337-1F37C 1F37E-1F393 1F3A0-1F3CA",
   "1F3CF-1F3D3 1F3E0-1F3F0 1F3F4 1F3F8-1F43E 1F440 1F442-1F4FC 1F4FF-1F53D 1F54B-1F54E",
   "1F550-1F567 1F57A 1F595-1F596 1F5A4 1F5FB-1F64F 1F680-1F6C5 1F6CC 1F6D0-1F6D2",
   "1F6D5-1F6D8 1F6DC-1F6DF 1F6EB-1F6EC 1F6F4-1F6FC 1F7E0-1F7EB 1F7F0 1F90C-1F93A",
   "1F93C-1F945 1F947-1F9FF 1FA70-1FA7C 1FA80-1FA8A 1FA8E-1FAC6 1FAC8 1FACD-1FADC",
   "1FADF-1FAEA 1FAEF-1FAF8 20000-2FFFD 30000-3FFFD"]

def wideSet : CharSet :=
  CharSet.ofRanges (readRanges wideRows)

def propertyNamed (name : String) : CharSet :=
  (propertySet? (plainName name.toList)).getD CharSet.none

/-- Characters that take no column: marks, invisible characters, the vowels and final consonants of
Hangul syllables, signs that enclose what follows them, and a caret. -/
def zeroWidthSet : CharSet :=
  (((propertyNamed "Default_Ignorable_Code_Point").union (propertyNamed "Grapheme_Extend")).union
    (CharSet.ofRanges
      (readRanges ["0605 070F 0890-0891 08E2 1160-11FF A8FA D7B0-D7C6 D7CB-D7FB"]))).diff
    (CharSet.ofRanges (readRanges ["115F 2D7F"]))

def charWidth (c : Char) : Nat :=
  if c.toNat ≤ 0xA0 then 1
  else if zeroWidthSet.mem c then 0
  else if wideSet.mem c then 2
  else 1

/-! ## Sequences -/

def regionalSet : CharSet := propertyNamed "Regional_Indicator"

/-- The pictographs and signs that can be shown in colours. -/
def emojiSet : CharSet := (propertyNamed "Emoji").diff regionalSet

/-- Those that are shown in colours of themselves. -/
def presentationSet : CharSet := (propertyNamed "Emoji_Presentation").diff regionalSet

def modifierSet : CharSet := propertyNamed "Emoji_Modifier"

def modifierBaseSet : CharSet := propertyNamed "Emoji_Modifier_Base"

/-- The character that asks for colours. -/
def colourSelector : Char := Char.ofNat 0xFE0F

def enclosingKeycap : Char := Char.ofNat 0x20E3

def zeroWidthJoiner : Char := Char.ofNat 0x200D

/-- What follows a picture at the front of a text. -/
def picture? : List Char → Option (List Char)
  | a :: b :: t =>
    if b = colourSelector ∧ emojiSet.mem a then
      some (if t.head? = some enclosingKeycap then t.tail else t)
    else if modifierSet.mem b ∧ modifierBaseSet.mem a then some t
    else if regionalSet.mem a ∧ regionalSet.mem b then some t
    else if presentationSet.mem a then some (b :: t)
    else none
  | [a] => if presentationSet.mem a then some [] else none
  | [] => none

/-- What follows one picture, or several of them that are joined; at most `fuel` of them. -/
def pictograph? : Nat → List Char → Option (List Char)
  | 0, _ => none
  | fuel + 1, t =>
    (picture? t).map fun rest =>
      match rest with
      | j :: more => if j = zeroWidthJoiner then (pictograph? fuel more).getD rest else rest
      | [] => []

def lamSet : CharSet :=
  CharSet.ofRanges (readRanges ["0644 06B5-06B8 076A 08A6 08C7"])

def alefSet : CharSet :=
  CharSet.ofRanges (readRanges ["0622-0623 0625 0627 0671-0673 0675 0773-0774 0870-0882"])

/-- Whether letters are joined across a character. -/
def isTransparent (c : Char) : Bool :=
  charWidth c == 0 && c.toNat != 0x200C && c.toNat != 0x200D

/-- What follows the Arabic letters lam and alef, which are shown as one. -/
def ligature? : List Char → Option (List Char)
  | [] => none
  | c :: t =>
    if lamSet.mem c then
      match t.dropWhile isTransparent with
      | d :: rest => if alefSet.mem d then some rest else none
      | [] => none
    else none

/-! ## Texts -/

/-- The columns of a text of at most `fuel` characters. -/
def columns : Nat → List Char → Nat
  | 0, _ => 0
  | _ + 1, [] => 0
  | fuel + 1, c :: t =>
    match pictograph? (t.length + 1) (c :: t) with
    | some rest => 2 + columns fuel rest
    | none =>
      match ligature? (c :: t) with
      | some rest => 1 + columns fuel rest
      | none => charWidth c + columns fuel t

def width (t : List Char) : Nat :=
  columns t.length t

end Unicode
end FormTemplate
