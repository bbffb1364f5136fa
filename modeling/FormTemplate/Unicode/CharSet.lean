/-!
# CharSet — sets of characters as ranges of code points

* `CharSet` — a set given by inclusive ranges of code points;
* `CharSet.mem` — membership;
* `CharSet.ofRanges` — the set of some ranges, sorted and with neighbours joined;
* `union`, `compl`, `inter`, `diff`, `symmDiff` — the set operations;
* `readRanges` — ranges from the text of a table.

The code points of surrogates belong to no character, so it does not matter whether a set has them.
-/

namespace FormTemplate
namespace Unicode

/-- The code points from `lo` to `hi`, both included. -/
structure CharRange where
  lo : Nat
  hi : Nat
  deriving DecidableEq

namespace CharRange

def mem (r : CharRange) (n : Nat) : Bool :=
  r.lo ≤ n && n ≤ r.hi

end CharRange

structure CharSet where
  ranges : List CharRange
  deriving DecidableEq

/-- The greatest code point. -/
def lastCodePoint : Nat := 0x10FFFF

namespace CharSet

def mem (s : CharSet) (c : Char) : Bool :=
  s.ranges.any fun r => r.mem c.toNat

def none : CharSet := ⟨[]⟩

def all : CharSet := ⟨[⟨0, lastCodePoint⟩]⟩

/-! ## Building sets -/

/-- Joins each range of a sorted list with those that overlap or touch it. -/
def merge : List CharRange → List CharRange
  | [] => []
  | r :: rs => go r rs
where
  go (r : CharRange) : List CharRange → List CharRange
    | [] => [r]
    | s :: rs =>
      if s.lo ≤ r.hi + 1 then go ⟨r.lo, max r.hi s.hi⟩ rs else r :: go s rs

def ofRanges (rs : List CharRange) : CharSet :=
  ⟨merge (rs.mergeSort fun a b => a.lo ≤ b.lo)⟩

def ofList (cs : List Char) : CharSet :=
  ofRanges (cs.map fun c => ⟨c.toNat, c.toNat⟩)

def singleton (c : Char) : CharSet := ⟨[⟨c.toNat, c.toNat⟩]⟩

def range (lo hi : Char) : CharSet := ⟨[⟨lo.toNat, hi.toNat⟩]⟩

/-! ## Operations -/

def union (a b : CharSet) : CharSet :=
  ofRanges (a.ranges ++ b.ranges)

/-- The gaps of a sorted list of ranges from a code point on. -/
def gaps (start : Nat) : List CharRange → List CharRange
  | [] => if start ≤ lastCodePoint then [⟨start, lastCodePoint⟩] else []
  | r :: rs =>
    if start < r.lo then ⟨start, r.lo - 1⟩ :: gaps (r.hi + 1) rs else gaps (r.hi + 1) rs

def compl (s : CharSet) : CharSet :=
  ⟨gaps 0 s.ranges⟩

def inter (a b : CharSet) : CharSet :=
  (a.compl.union b.compl).compl

def diff (a b : CharSet) : CharSet :=
  a.inter b.compl

def symmDiff (a b : CharSet) : CharSet :=
  (a.union b).diff (a.inter b)

/-- Whether every character of the set is ASCII. -/
def isAscii (s : CharSet) : Bool :=
  s.ranges.all fun r => r.hi < 0x80

end CharSet

/-- The code points of surrogates. -/
def surrogates : CharSet := ⟨[⟨0xD800, 0xDFFF⟩]⟩

/-! ## Tables -/

def hexDigit? (c : Char) : Option Nat :=
  if '0' ≤ c && c ≤ '9' then some (c.toNat - '0'.toNat)
  else if 'a' ≤ c && c ≤ 'f' then some (c.toNat - 'a'.toNat + 10)
  else if 'A' ≤ c && c ≤ 'F' then some (c.toNat - 'A'.toNat + 10)
  else none

/-- The value of a row of hexadecimal digits, read after `acc`. -/
def hexValue? (acc : Nat) : List Char → Option Nat
  | [] => some acc
  | c :: cs => (hexDigit? c).bind fun d => hexValue? (16 * acc + d) cs

/-- The ranges of the rows of a table: hexadecimal numbers and pairs `first-last`, one blank between
them. -/
def readRanges (rows : List String) : List CharRange :=
  rows.flatMap fun row => go row.toList none 0
where
  /-- `first` is the start of a range whose end is being read, `n` the number read so far. -/
  go : List Char → Option Nat → Nat → List CharRange
    | [], first, n => [⟨first.getD n, n⟩]
    | c :: cs, first, n =>
      if c = ' ' then ⟨first.getD n, n⟩ :: go cs none 0
      else if c = '-' then go cs (some n) 0
      else go cs first (16 * n + (hexDigit? c).getD 0)

end Unicode
end FormTemplate
