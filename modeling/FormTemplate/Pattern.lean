import FormTemplate.Pattern.Matching
import FormTemplate.Pattern.Reader
import FormTemplate.Pattern.Size

/-!
# Pattern — the patterns that values are checked with

* `Pattern.compile` — the pattern that a text denotes, or the reason why it denotes none;
* `Pattern.compile?` — the same without the reason;
* `Pattern.quote` — the notation of a text that only matches itself;
* `Pattern.finds` — whether a text contains a match.
-/

namespace FormTemplate

/-- Why a text is not a usable pattern. -/
inductive PatternFault where
  | malformed
  | tooLarge
  deriving DecidableEq

namespace PatternFault

def message : PatternFault → String
  | malformed => "regex parse error:"
  | tooLarge => "Compiled regex exceeds size limit of " ++ Text.showInt sizeLimit ++ " bytes."

end PatternFault

namespace Pattern

def compile (source : String) : Except PatternFault (Pattern Atom) :=
  match read? source.toList with
  | none => .error .malformed
  | some p => if p.fits then .ok p else .error .tooLarge

def compile? (source : String) : Option (Pattern Atom) :=
  (compile source).toOption

/-! ## Texts as patterns -/

/-- The characters that the notation of patterns gives a meaning, some of them only in brackets or in
verbose patterns. -/
def signs : List Char :=
  ['\\', '.', '+', '*', '?', '(', ')', '|', '[', ']', '{', '}', '^', '$', '#', '&', '-', '~']

/-- A text with a backslash in front of every sign. -/
def quote : List Char → List Char
  | [] => []
  | c :: t => if signs.contains c then '\\' :: c :: quote t else c :: quote t

end Pattern
end FormTemplate
