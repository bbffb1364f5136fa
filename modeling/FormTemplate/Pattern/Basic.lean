import FormTemplate.Unicode.CharSet

/-!
# Pattern — regular expressions over characters

* `Look` — a condition on a place in a text that consumes nothing;
* `Atom` — a set of characters or a look;
* `Pattern` — what atoms are combined to: sequences, alternatives, repetitions and groups.

Patterns are only searched for, so it does not matter which of several matches is preferred or what
a group captures.  Groups are kept because they count towards the size of a pattern.
-/

namespace FormTemplate

/-- Where lines start and end besides the two ends of the text. -/
inductive LineEnds where
  /-- Nowhere: the text is one line. -/
  | none
  | lineFeed
  /-- At line feeds and carriage returns, the two in a row being one end. -/
  | carriageReturn
  deriving DecidableEq

/-- Conditions on the characters around a place; words are those of ASCII unless `unicode` holds. -/
inductive Look where
  | lineStart (ends : LineEnds)
  | lineEnd (ends : LineEnds)
  | wordBoundary (unicode : Bool)
  | noWordBoundary (unicode : Bool)
  | wordStart (unicode : Bool)
  | wordEnd (unicode : Bool)
  /-- No word character before the place. -/
  | wordStartHalf (unicode : Bool)
  /-- No word character after the place. -/
  | wordEndHalf (unicode : Bool)
  deriving DecidableEq

inductive Atom where
  | oneOf (s : Unicode.CharSet)
  | look (l : Look)
  deriving DecidableEq

inductive Pattern (α : Type) where
  | empty
  | atom (a : α)
  | seq (p q : Pattern α)
  | alt (p q : Pattern α)
  /-- At least `min` times, and at most `max` times when there is a limit. -/
  | repetition (p : Pattern α) (min : Nat) (max : Option Nat)
  | group (p : Pattern α)
  deriving DecidableEq

namespace Pattern

def map {α β : Type} (f : α → β) : Pattern α → Pattern β
  | empty => empty
  | atom a => atom (f a)
  | seq p q => seq (p.map f) (q.map f)
  | alt p q => alt (p.map f) (q.map f)
  | repetition p min max => repetition (p.map f) min max
  | group p => group (p.map f)

/-- The patterns of a list one after another. -/
def sequence {α : Type} : List (Pattern α) → Pattern α
  | [] => empty
  | [p] => p
  | p :: q :: ps => seq p (sequence (q :: ps))

/-- Any one of the patterns of a list, or an empty text if there is none. -/
def choice {α : Type} : List (Pattern α) → Pattern α
  | [] => empty
  | [p] => p
  | p :: q :: ps => alt p (choice (q :: ps))

end Pattern
end FormTemplate
