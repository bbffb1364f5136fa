import FormTemplate.Unicode.CharSet

/-!
# Utf8 — sets of characters as rows of byte ranges

A row of byte ranges stands for the characters whose encoded bytes lie in the ranges, byte by byte.

* `CharRange.rows` — a range of characters as rows, in ascending order;
* `residuals` — what can follow each first byte range of some rows;
* `automaton` — the states of the smallest automaton that tells rows apart by their ranges;
* `prefixCount` — the number of states when only what rows start with is shared.
-/

namespace FormTemplate
namespace Unicode

/-- A row has a byte range for each byte. -/
abbrev ByteRow := List (Nat × Nat)

/-! ## Rows of a range -/

/-- The rows of the values from `lo` to `hi` when `n` more bytes follow the first one, which counts
from `base`. -/
def rowsFrom : Nat → Nat → Nat → Nat → List ByteRow
  | 0, base, lo, hi => [[(base + lo, base + hi)]]
  | n + 1, base, lo, hi =>
    let block := Nat.pow 64 (n + 1)
    let first := lo / block
    let last := hi / block
    let below := lo % block
    let above := hi % block
    let within (a b lo hi : Nat) : List ByteRow :=
      (rowsFrom n 0x80 lo hi).map fun row => (base + a, base + b) :: row
    if first = last then within first first below above
    else
      let start := if below = 0 then first else first + 1
      let stop := if above = block - 1 then last + 1 else last
      (if below = 0 then [] else within first first below (block - 1)) ++
        (if start < stop then within start (stop - 1) 0 (block - 1) else []) ++
        (if above = block - 1 then [] else within last last 0 above)

/-- The code points with encodings of one length: the number of bytes after the first one, the value
of the first byte's mark, and the first and the last code point. -/
def encodingBlocks : List (Nat × Nat × Nat × Nat) :=
  [(0, 0, 0, 0x7F), (1, 0xC0, 0x80, 0x7FF), (2, 0xE0, 0x800, 0xD7FF), (2, 0xE0, 0xE000, 0xFFFF),
   (3, 0xF0, 0x10000, 0x10FFFF)]

def CharRange.rows (r : CharRange) : List ByteRow :=
  encodingBlocks.flatMap fun (n, mark, first, last) =>
    let lo := max r.lo first
    let hi := min r.hi last
    if lo ≤ hi then rowsFrom n mark lo hi else []

def CharSet.rows (s : CharSet) : List ByteRow :=
  s.ranges.flatMap CharRange.rows

/-! ## Automata -/

/-- Groups the rests of neighbouring rows that start with the same byte range. -/
def residuals : List ByteRow → List ((Nat × Nat) × List ByteRow)
  | [] => []
  | [] :: rows => residuals rows
  | (b :: row) :: rows =>
    match residuals rows with
    | (c, rests) :: groups =>
      if b = c then (c, row :: rests) :: groups else (b, [row]) :: (c, rests) :: groups
    | [] => [(b, [row])]

/-- The states that are reached from some states in up to `n` steps, final ones left out, each of
them once. -/
def reached : Nat → List (List ByteRow) → List (List ByteRow)
  | 0, _ => []
  | n + 1, states =>
    let next := states.flatMap fun rows =>
      ((residuals rows).map Prod.snd).filter fun rest => rest.any fun row => !row.isEmpty
    let next := next.eraseDups
    next ++ reached n next

/-- The states of an automaton, each being the list of what can follow it. -/
def automaton (rows : List ByteRow) : List (List ByteRow) :=
  (rows :: reached 3 [rows]).eraseDups

/-- The length of what two rows start with in common. -/
def commonLength : ByteRow → ByteRow → Nat
  | a :: r, b :: s => if a = b then commonLength r s + 1 else 0
  | _, _ => 0

/-- The number of different starts of rows, where those that agree are neighbours. -/
def prefixCount (previous : ByteRow) : List ByteRow → Nat
  | [] => 0
  | row :: rows => row.length - commonLength previous row + prefixCount row rows

end Unicode
end FormTemplate
