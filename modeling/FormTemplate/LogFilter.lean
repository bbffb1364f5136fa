import FormTemplate.Text.Integer
import FormTemplate.Unicode.Property

/-!
# LogFilter — which events are logged

A filter is a list of directives with commas between them.  A directive names a level, or a target,
a span with conditions on its fields, or both, and then perhaps a level after an equals sign.

* `LogFilter.isLevel` — the names and numbers of levels;
* `LogFilter.Stage` — how far a directive has been read, and `step` reads one more character;
* `LogFilter.check` — what is wrong with the first directive that is not well-formed.
-/

namespace FormTemplate

inductive LogFilterFault where
  | malformed
  | unknownLevel
  deriving DecidableEq

namespace LogFilterFault

def message : LogFilterFault → String
  | malformed => "invalid filter directive"
  | unknownLevel =>
    "error parsing level filter: expected one of \"off\", \"error\", \"warn\", \"info\", " ++
      "\"debug\", \"trace\", or a number 0-5"

end LogFilterFault

namespace LogFilter

/-! ## Levels -/

def levelNames : List String :=
  ["off", "error", "warn", "info", "debug", "trace"]

/-- A level by its name, up to case, or by its place in the list of names. -/
def isLevel (t : List Char) : Bool :=
  let digits := if t.head? = some '+' then t.tail else t
  levelNames.any (fun name => Text.sameToken name.toList t) ||
    (Text.readNat? digits).any fun n => n < levelNames.length

/-! ## Directives -/

inductive Stage where
  | start
  /-- In a target, which may turn out to be a level. -/
  | target
  | span
  /-- In a condition, which is still `empty` or not. -/
  | condition (empty : Bool)
  | conditionsEnd
  | spanEnd
  /-- After the equals sign before a level. -/
  | level
  deriving DecidableEq

/-- Whether a target may start with a character. -/
def startsTarget (c : Char) : Bool :=
  c == '-' || c == ':' || c == '_' || Unicode.isAlphabetic c || Unicode.isNumeric c

def step : Stage → Char → Option Stage
  | .start, c => if c = '[' then some .span else if startsTarget c then some .target else none
  | .target, c => some (if c = '=' then .level else if c = '[' then .span else .target)
  | .span, c => some (if c = ']' then .spanEnd else if c = '{' then .condition true else .span)
  | .condition empty, c =>
    if c = '}' then (if empty then none else some .conditionsEnd) else some (.condition false)
  | .conditionsEnd, c => if c = ']' then some .spanEnd else none
  | .spanEnd, c => if c = '=' then some .level else none
  | .level, _ => some .level

/-- The number of characters before the level of a directive; there is none without a level. -/
def levelStart? (s : Stage) : List Char → Option (Option Nat)
  | [] => some (if s = .level then some 0 else none)
  | c :: t =>
    if s = .level then some (some 0)
    else (step s c).bind fun s => (levelStart? s t).map fun n => n.map (· + 1)

/-- Checks a directive.  The place of its level is counted without the blanks at the front but
looked up with them, so such blanks move it. -/
def checkDirective (t : List Char) : Except LogFilterFault Unit :=
  match levelStart? .start (Text.trim t) with
  | none => .error .malformed
  | some none => .ok ()
  | some (some n) =>
    let level := t.drop n
    if level.isEmpty ∨ isLevel level then .ok () else .error .unknownLevel

def check (filter : String) : Except LogFilterFault Unit :=
  (((Text.splitOnChar ',' (Text.trim filter.toList)).filter fun t => !t.isEmpty).mapM
    checkDirective).map fun _ => ()

end LogFilter
end FormTemplate
