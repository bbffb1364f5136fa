import FormTemplate.Pattern.Basic
import FormTemplate.Text.Blank
import FormTemplate.Unicode.Case

/-!
# Flags — the switches that change how a pattern is read

* `Flags.skip` — in a verbose pattern, skipping blanks and comments;
* `Flags.fold` — a set without regard to case, where case does not count;
* `Flags.close?` — folding, then negation;
* `Flags.readRow?` — a row of switches such as `im-s`.

Without Unicode, sets hold ASCII characters only; a negated one would not, and is refused.
-/

namespace FormTemplate
namespace Pattern

structure Flags where
  ignoreCase : Bool := false
  /-- `^` and `$` stand at the ends of lines. -/
  multiLine : Bool := false
  /-- A dot stands for line ends too. -/
  dotAll : Bool := false
  /-- Lines may end in a carriage return. -/
  carriageReturn : Bool := false
  unicode : Bool := true
  /-- Blanks and comments do not count. -/
  verbose : Bool := false
  deriving DecidableEq

/-- Drops blanks and comments, the latter from a number sign to the end of the line. -/
def skipComments : Bool → List Char → List Char
  | _, [] => []
  | true, c :: t => skipComments (c != '\n') t
  | false, c :: t =>
    if Text.isBlank c then skipComments false t
    else if c = '#' then skipComments true t
    else c :: t

/-- The case variants of the ASCII letters of a set, together with the set. -/
def foldAscii (s : Unicode.CharSet) : Unicode.CharSet :=
  let letters := (List.range 26).map fun i => (65 + i, 97 + i)
  let hit (n : Nat) : Bool := s.ranges.any fun r => r.mem n
  let more := (letters.filter fun (a, b) => hit a || hit b).flatMap fun (a, b) =>
    [⟨a, a⟩, ⟨b, b⟩]
  Unicode.CharSet.ofRanges (s.ranges ++ more)

namespace Flags

def skip (f : Flags) (t : List Char) : List Char :=
  if f.verbose then skipComments false t else t

def fold (f : Flags) (s : Unicode.CharSet) : Unicode.CharSet :=
  if f.ignoreCase then (if f.unicode then s.caseClosure else foldAscii s) else s

def close? (f : Flags) (negated : Bool) (s : Unicode.CharSet) : Option Unicode.CharSet :=
  if negated then (if f.unicode then some (f.fold s).compl else none) else some (f.fold s)

def ends (f : Flags) : LineEnds :=
  if !f.multiLine then .none else if f.carriageReturn then .carriageReturn else .lineFeed

/-- What a dot stands for; without Unicode it has no meaning. -/
def dot? (f : Flags) : Option Unicode.CharSet :=
  if !f.unicode then none
  else if f.dotAll then some Unicode.CharSet.all
  else if f.carriageReturn then some (Unicode.CharSet.ofList ['\n', '\r']).compl
  else some (Unicode.CharSet.singleton '\n').compl

/-! ## Rows of switches -/

/-- Sets one switch; `U`, which decides between matches, changes nothing here. -/
def set? (f : Flags) (on : Bool) : Char → Option Flags
  | 'i' => some { f with ignoreCase := on }
  | 'm' => some { f with multiLine := on }
  | 's' => some { f with dotAll := on }
  | 'U' => some f
  | 'u' => some { f with unicode := on }
  | 'R' => some { f with carriageReturn := on }
  | 'x' => some { f with verbose := on }
  | _ => none

/-- Applies the switches before a colon or a closing parenthesis, each at most once.  One hyphen may
stand before those to be turned off; the result holds what stops the row. -/
def readRow? (f : Flags) (on : Bool) (seen : List Char) : List Char → Option (Flags × List Char)
  | [] => none
  | c :: t =>
    if c = ':' || c = ')' then
      if seen.head? == some '-' then none else some (f, c :: t)
    else if seen.contains c then none
    else if c = '-' then readRow? f false (c :: seen) t
    else (f.set? on c).bind fun f => readRow? f on (c :: seen) t

end Flags
end Pattern
end FormTemplate
