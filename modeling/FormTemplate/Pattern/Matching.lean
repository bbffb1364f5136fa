import FormTemplate.Pattern.Basic
import FormTemplate.Unicode.Property

/-!
# Matching — whether a text contains a match of a pattern

The places of a text of `n` characters are numbered from `0` to `n`, and a set of places is a number
whose bit `i` says whether place `i` belongs to it.

* `Step` — an atom as it applies to one text: the characters it consumes or the places it holds at;
* `advance` — the places that a pattern can end at when it starts at one of a set of places;
* `finds` — whether a pattern matches anywhere in a text.

Going around a repetition more often than there are places reaches no new place, which bounds the
number of rounds.
-/

namespace FormTemplate

/-! ## Looks -/

namespace Look

def isWordChar (unicode : Bool) (c : Option Char) : Bool :=
  c.any fun c => if unicode then Unicode.isWord c else c.isAlphanum || c == '_'

/-- Whether a look holds between two characters, which are absent at the ends of the text. -/
def holds (before after : Option Char) : Look → Bool
  | lineStart .none => before.isNone
  | lineStart .lineFeed => before.isNone || before == some '\n'
  | lineStart .carriageReturn =>
    before.isNone || before == some '\n' || (before == some '\r' && after != some '\n')
  | lineEnd .none => after.isNone
  | lineEnd .lineFeed => after.isNone || after == some '\n'
  | lineEnd .carriageReturn =>
    after.isNone || after == some '\r' || (after == some '\n' && before != some '\r')
  | wordBoundary u => isWordChar u before != isWordChar u after
  | noWordBoundary u => isWordChar u before == isWordChar u after
  | wordStart u => !isWordChar u before && isWordChar u after
  | wordEnd u => isWordChar u before && !isWordChar u after
  | wordStartHalf u => !isWordChar u before
  | wordEndHalf u => !isWordChar u after

end Look

/-! ## Sets of places -/

/-- The set of the places at which a list has `true`. -/
def placeSet : List Bool → Nat
  | [] => 0
  | b :: bs => 2 * placeSet bs + b.toNat

/-- The characters around each place of a text whose first place comes after `before`. -/
def surroundings (before : Option Char) : List Char → List (Option Char × Option Char)
  | [] => [(before, none)]
  | c :: t => (before, some c) :: surroundings (some c) t

inductive Step where
  /-- Consumes the character after any of these places. -/
  | consume (places : Nat)
  /-- Stays at any of these places. -/
  | stay (places : Nat)

def Atom.step (text : List Char) : Atom → Step
  | oneOf s => .consume (placeSet (text.map s.mem))
  | look l => .stay (placeSet ((surroundings none text).map fun (b, a) => l.holds b a))

def Step.advance (starts : Nat) : Step → Nat
  | consume places => (starts &&& places) <<< 1
  | stay places => starts &&& places

/-! ## Patterns -/

/-- Applies a function a number of times. -/
def rounds (f : Nat → Nat) : Nat → Nat → Nat
  | 0, s => s
  | k + 1, s => rounds f k (f s)

/-- Adds what a function reaches, up to a number of times. -/
def grow (f : Nat → Nat) : Nat → Nat → Nat
  | 0, s => s
  | k + 1, s =>
    let t := s ||| f s
    if t == s then s else grow f k t

namespace Pattern

/-- The places at the end of a match that starts in a set of places.  There are `limit` places. -/
def advance (limit : Nat) : Pattern Step → Nat → Nat
  | empty, s => s
  | atom a, s => a.advance s
  | seq p q, s => q.advance limit (p.advance limit s)
  | alt p q, s => p.advance limit s ||| q.advance limit s
  | repetition p lo hi, s =>
    let extra := (hi.map fun hi => min (hi - lo) limit).getD limit
    grow (p.advance limit) extra (rounds (p.advance limit) (min lo limit) s)
  | group p, s => p.advance limit s

/-- Whether some part of a text matches a pattern. -/
def finds (p : Pattern Atom) (text : List Char) : Bool :=
  let limit := text.length + 1
  (p.map (Atom.step text)).advance limit (Nat.pow 2 limit - 1) != 0

end Pattern
end FormTemplate
