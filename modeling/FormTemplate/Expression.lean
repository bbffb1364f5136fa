import FormTemplate.Placeholder

/-!
# Expression — the segments of a placeholder

An expression has up to four segments, `name:type:options or rules:rules`.  The last one keeps any
further separators.  Segments are trimmed, and a blank one after the name counts as absent.
-/

namespace FormTemplate

structure Expression where
  name : List Char
  explicitType : Option (List Char)
  optionsOrRules : Option (List Char)
  extraRules : Option (List Char)
  deriving DecidableEq

namespace Expression

/-- The number of segments that an expression may have. -/
def maxSegments : Nat := 4

/-- A segment after the name, unless it is missing or blank. -/
def segment? (segments : List (List Char)) (i : Nat) : Option (List Char) :=
  (segments[i]?).filter fun s => !s.isEmpty

def parse (separator t : List Char) : Expression :=
  let segments := (Text.pieces maxSegments separator t).map Text.trim
  { name := segments.headD []
    explicitType := segment? segments 1
    optionsOrRules := segment? segments 2
    extraRules := segment? segments 3 }

end Expression

/-- What a placeholder declares. -/
def Placeholder.declaration (d : Delimiters) (p : Placeholder) : Expression :=
  Expression.parse d.separator p.expression.toList

end FormTemplate
