import FormTemplate.Decimal.Reading
import FormTemplate.Pattern
import FormTemplate.Rendering
import FormTemplate.Variable

/-!
# Check — values against the rules of their variables

`Variable.check` gives the first check that a value fails:

1. a required value is there;
2. the value of a number field is a number;
3. a number is not below the lower bound, and not above the upper one;
4. the text of the value contains a match of the pattern.

A value that is not there passes the checks after the first.  Bounds apply to all values that are
numbers or the text of one, whatever the type, and are compared as doubles.  A pattern that is not
usable is left out.  The message of the constraints takes the place of what the checks of bounds
and pattern would say.
-/

namespace FormTemplate

/-- Why a value is rejected. -/
inductive CheckError where
  | required (label : String)
  | notANumber (label : String)
  | belowMin (label : String) (min : Int)
  | aboveMax (label : String) (max : Int)
  | patternMismatch (label : String) (pattern : String)
  /-- The message that the variable declares. -/
  | custom (message : String)
  deriving DecidableEq

namespace CheckError

/-- What is shown next to the field. -/
def message : CheckError → String
  | required label => label ++ "不能为空"
  | notANumber label => label ++ "必须是数字"
  | belowMin label min => label ++ "不能小于" ++ Text.showInt min
  | aboveMax label max => label ++ "不能大于" ++ Text.showInt max
  | patternMismatch label _ => label ++ "格式不正确"
  | custom message => message

end CheckError

/-! ## What a value is -/

namespace Value

/-- Null, blank strings and empty arrays stand for no value. -/
def isVacant : Value → Bool
  | null => true
  | string s => Text.blankString s
  | array items => items.isEmpty
  | _ => false

/-- The number that a value is, or that its text denotes. -/
def number? : Value → Option Binary64
  | number n => some n.toBinary64
  | string s => Text.readReal? (Text.trim s.toList)
  | _ => none

end Value

/-! ## Checks -/

namespace Constraints

def checkMin (c : Constraints) (label : String) (v : Value) : Option CheckError :=
  match c.min, v.number? with
  | some min, some x => if x.lt (Binary64.ofInt min) then some (.belowMin label min) else none
  | _, _ => none

def checkMax (c : Constraints) (label : String) (v : Value) : Option CheckError :=
  match c.max, v.number? with
  | some max, some x => if (Binary64.ofInt max).lt x then some (.aboveMax label max) else none
  | _, _ => none

def checkPattern (c : Constraints) (label : String) (v : Value) : Option CheckError :=
  match c.pattern with
  | none => none
  | some source =>
    match Pattern.compile? source with
    | some p => if p.finds v.text then none else some (.patternMismatch label source)
    | none => none

/-- The first bound or pattern that a value fails. -/
def check (c : Constraints) (label : String) (v : Value) : Option CheckError :=
  (((c.checkMin label v).or (c.checkMax label v)).or (c.checkPattern label v)).map fun e =>
    (c.message.map .custom).getD e

end Constraints

namespace Variable

/-- The first check that a value fails; none if it is accepted. -/
def check (x : Variable) (v : Value) : Option CheckError :=
  if v.isVacant then
    if x.required then some (.required x.label) else none
  else if x.type = .number ∧ v.number?.isNone then some (.notANumber x.label)
  else x.validation.bind fun c => c.check x.label v

end Variable
end FormTemplate
