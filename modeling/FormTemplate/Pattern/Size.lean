import FormTemplate.Pattern.Basic
import FormTemplate.Text.Split
import FormTemplate.Unicode.Utf8

/-!
# Size — the room that a pattern takes

A pattern is allowed only if two automata over bytes fit into `sizeLimit` bytes each: one that reads
a text forward and records groups, and one that reads it backward.

* Every state takes `stateBytes`, and more for each branch or each range of bytes that it lists.
* Forward, the bytes of a set are read by an automaton without equal states; backward, by one that
  shares only what the encodings of characters start with.
* A repetition has a copy of its part for every round that its limits name.

`Footprint.ofPattern` adds these up without building an automaton of the pattern.
-/

namespace FormTemplate

def stateBytes : Nat := 32

def branchBytes : Nat := 4

def rangeBytes : Nat := 8

/-- The room that each automaton of a pattern may take. -/
def sizeLimit : Nat := 10485760

/-- A state that branches in two. -/
def forkBytes : Nat := stateBytes + 2 * branchBytes

/-! ## Sets -/

inductive Direction where
  | forward
  | backward
  deriving DecidableEq

/-- Whether a set has exactly one character. -/
def Unicode.CharSet.isSingleton (s : Unicode.CharSet) : Bool :=
  match s.ranges with
  | [r] => r.lo == r.hi
  | _ => false

def Direction.setBytes (d : Direction) (s : Unicode.CharSet) : Nat :=
  let rows := s.rows
  if s.isSingleton then stateBytes * Text.total (rows.map List.length)
  else if s.isAscii then 2 * stateBytes + rangeBytes * s.ranges.length
  else
    match d with
    | .forward =>
      stateBytes + Text.total ((Unicode.automaton rows).map fun state =>
        stateBytes + rangeBytes * (Unicode.residuals state).length)
    | .backward =>
      2 * stateBytes + branchBytes * rows.length + stateBytes * Unicode.prefixCount [] rows

/-- The two states that record where a group starts and ends. -/
def Direction.groupBytes : Direction → Nat
  | forward => 2 * stateBytes
  | backward => 0

/-! ## Patterns -/

structure Footprint where
  /-- The room of the pattern. -/
  bytes : Nat
  /-- The room of the pattern as one or several branches of a choice. -/
  branches : Nat
  /-- The set of the characters that match, if a match is a single character. -/
  chars : Option Unicode.CharSet
  /-- Whether the pattern matches an empty text. -/
  matchesEmpty : Bool
  /-- Whether the pattern matches nothing but an empty text. -/
  onlyEmpty : Bool

namespace Footprint

def simple (bytes : Nat) (matchesEmpty onlyEmpty : Bool) : Footprint :=
  ⟨bytes, branchBytes + bytes, none, matchesEmpty, onlyEmpty⟩

def ofSet (d : Direction) (s : Unicode.CharSet) : Footprint :=
  let bytes := d.setBytes s
  ⟨bytes, branchBytes + bytes, some s, s.ranges.isEmpty, false⟩

/-- The room of a repetition whose part takes `bytes`. -/
def repetitionBytes (bytes : Nat) (matchesEmpty : Bool) : Nat → Option Nat → Nat
  | 0, none => if matchesEmpty then bytes + 2 * forkBytes + stateBytes else bytes + forkBytes
  | n + 1, none => (n + 1) * bytes + forkBytes
  | 0, some 0 => stateBytes
  | 0, some 1 => bytes + forkBytes + stateBytes
  | lo, some hi =>
    if lo = hi then lo * bytes
    else max (lo * bytes) (if lo = 0 then stateBytes else 0) + stateBytes +
      (hi - lo) * (forkBytes + bytes)

/-- A part that matches only an empty text need not be repeated more than once. -/
def repeated (p : Footprint) (lo : Nat) (hi : Option Nat) : Footprint :=
  let lo := if p.onlyEmpty then min lo 1 else lo
  let hi := if p.onlyEmpty then some (min (hi.getD 1) 1) else hi
  if lo = 1 ∧ hi = some 1 then p
  else
    simple (repetitionBytes p.bytes p.matchesEmpty lo hi) (lo == 0 || p.matchesEmpty)
      (p.onlyEmpty || hi == some 0)

def choice (d : Direction) (p q : Footprint) : Footprint :=
  match p.chars, q.chars with
  | some s, some t => ofSet d (s.union t)
  | _, _ =>
    let branches := p.branches + q.branches
    ⟨2 * stateBytes + branches, branches, none, p.matchesEmpty || q.matchesEmpty,
      p.onlyEmpty && q.onlyEmpty⟩

def ofPattern (d : Direction) : Pattern Atom → Footprint
  | .empty => simple stateBytes true true
  | .atom (.oneOf s) => ofSet d s
  | .atom (.look _) => simple stateBytes true true
  | .seq .empty q => ofPattern d q
  | .seq p .empty => ofPattern d p
  | .seq p q =>
    let p := ofPattern d p
    let q := ofPattern d q
    simple (p.bytes + q.bytes) (p.matchesEmpty && q.matchesEmpty) (p.onlyEmpty && q.onlyEmpty)
  | .alt p q => choice d (ofPattern d p) (ofPattern d q)
  | .repetition p lo hi => (ofPattern d p).repeated lo hi
  | .group p =>
    let p := ofPattern d p
    simple (p.bytes + d.groupBytes) p.matchesEmpty p.onlyEmpty

end Footprint

/-- What an automaton has beside the pattern: a loop over the text before a match, the group of the
whole match, and the final state. -/
def Direction.frameBytes (d : Direction) : Nat :=
  forkBytes + 2 * stateBytes + rangeBytes + d.groupBytes + stateBytes

/-- Whether both automata of a pattern keep within the limit. -/
def Pattern.fits (p : Pattern Atom) : Bool :=
  [Direction.forward, Direction.backward].all fun d =>
    (Footprint.ofPattern d p).bytes + d.frameBytes ≤ sizeLimit

end FormTemplate
