import FormTemplate.Check
import FormTemplate.Proofs.Text.Trim

/-!
# Checks — what single checks say of a value

A check gives the first thing that is wrong.  This file says when there is none, which part of a
check gives what, and what is left of a check without some of the constraints.

* `Constraints.check_eq_none_iff`, `Variable.check_eq_none_iff` — when nothing is found to be wrong;
* `CheckError.Ruled`, `Constraints.ruled_of_failed` — what constraints can find to be wrong;
* `Variable.check_eq_required_iff` — a value is missed only if it is vacant and required;
* `Variable.withoutPattern`, `Variable.check_eq_or` — the pattern is looked at last;
* `Variable.withoutBounds`, `Variable.check_eq_none_iff_bounds` — numbers are within the bounds, and
  pass the rest of the check.
-/

namespace FormTemplate

/-! ## Numbers -/

/-- A number, or a text of one, is a value. -/
theorem Value.isVacant_of_number? {v : Value} {y : Binary64} (h : v.number? = some y) :
    v.isVacant = false := by
  cases v with
  | number n => rfl
  | string s =>
      refine Bool.eq_false_iff.2 ?_
      intro hblank
      have htrim : Text.trim s.toList = [] := Text.trim_of_allBlank hblank
      rw [Value.number?, htrim] at h
      cases h
  | null => cases h
  | bool b => cases h
  | array items => cases h
  | object fields => cases h

/-! ## Constraints -/

/-- A failed bound or pattern: the failures that a declared message stands for. -/
inductive CheckError.Ruled : CheckError → Prop
  | belowMin (label : String) (min : Int) : Ruled (.belowMin label min)
  | aboveMax (label : String) (max : Int) : Ruled (.aboveMax label max)
  | patternMismatch (label pattern : String) : Ruled (.patternMismatch label pattern)

namespace Constraints

variable {c : Constraints} {label : String} {v : Value}

theorem checkMin_eq_none_iff :
    c.checkMin label v = none ↔
      ∀ min y, c.min = some min → v.number? = some y → y.lt (Binary64.ofInt min) = false := by
  unfold checkMin
  cases c.min with
  | none => simp
  | some min => cases v.number? <;> simp

theorem checkMax_eq_none_iff :
    c.checkMax label v = none ↔
      ∀ max y, c.max = some max → v.number? = some y → (Binary64.ofInt max).lt y = false := by
  unfold checkMax
  cases c.max with
  | none => simp
  | some max => cases v.number? <;> simp

/-- A pattern that is not usable lets every text pass. -/
theorem checkPattern_eq_none_iff :
    c.checkPattern label v = none ↔
      ∀ source, c.pattern = some source → ∀ p, Pattern.compile? source = some p →
        p.finds v.text = true := by
  unfold checkPattern
  cases c.pattern with
  | none => simp
  | some source =>
      simp only [Option.some.injEq, forall_eq']
      cases Pattern.compile? source with
      | none => simp
      | some p => simp

theorem checkMin_eq_some_iff {e : CheckError} :
    c.checkMin label v = some e ↔
      ∃ min y, c.min = some min ∧ v.number? = some y ∧ y.lt (Binary64.ofInt min) = true ∧
        .belowMin label min = e := by
  unfold checkMin
  cases c.min with
  | none => simp
  | some min => cases v.number? <;> simp

theorem checkMax_eq_some_iff {e : CheckError} :
    c.checkMax label v = some e ↔
      ∃ max y, c.max = some max ∧ v.number? = some y ∧ (Binary64.ofInt max).lt y = true ∧
        .aboveMax label max = e := by
  unfold checkMax
  cases c.max with
  | none => simp
  | some max => cases v.number? <;> simp

theorem checkPattern_eq_some_iff {e : CheckError} :
    c.checkPattern label v = some e ↔
      ∃ source p, c.pattern = some source ∧ Pattern.compile? source = some p ∧
        p.finds v.text = false ∧ .patternMismatch label source = e := by
  unfold checkPattern
  cases c.pattern with
  | none => simp
  | some source =>
      simp only [Option.some.injEq, exists_and_left, exists_eq_left']
      cases Pattern.compile? source with
      | none => simp
      | some p => simp

theorem check_eq_none_iff :
    c.check label v = none ↔
      c.checkMin label v = none ∧ c.checkMax label v = none ∧ c.checkPattern label v = none := by
  simp [check, Option.or_eq_none_iff, and_assoc]

theorem check_empty (label : String) (v : Value) : ({} : Constraints).check label v = none :=
  check_eq_none_iff.2 ⟨rfl, rfl, rfl⟩

/-- Bounds and patterns are all that the constraints are about. -/
theorem ruled_of_failed {e : CheckError}
    (h : ((c.checkMin label v).or (c.checkMax label v)).or (c.checkPattern label v) = some e) :
    e.Ruled := by
  rcases Option.or_eq_some_iff.1 h with hbound | ⟨-, hpattern⟩
  · rcases Option.or_eq_some_iff.1 hbound with hmin | ⟨-, hmax⟩
    · obtain ⟨min, _, -, -, -, rfl⟩ := checkMin_eq_some_iff.1 hmin
      exact .belowMin label min
    · obtain ⟨max, _, -, -, -, rfl⟩ := checkMax_eq_some_iff.1 hmax
      exact .aboveMax label max
  · obtain ⟨source, _, -, -, -, rfl⟩ := checkPattern_eq_some_iff.1 hpattern
    exact .patternMismatch label source

/-- So they are not about values that are not there. -/
theorem check_ne_required (name : String) : c.check label v ≠ some (.required name) := by
  intro h
  obtain ⟨e, he, hworded⟩ := Option.map_eq_some_iff.1 h
  cases hmessage : c.message with
  | some m => simp [hmessage] at hworded
  | none =>
      obtain rfl : e = .required name := by
        simpa [hmessage] using hworded
      cases ruled_of_failed he

/-- The message that is shown for a failed bound or pattern. -/
def reword (c : Constraints) (e : CheckError) : CheckError :=
  (c.message.map .custom).getD e

/-- The pattern is looked at when the bounds have nothing to say. -/
theorem check_eq_or (c : Constraints) (label : String) (v : Value) :
    c.check label v =
      (({ c with pattern := none } : Constraints).check label v).or
        ((c.checkPattern label v).map c.reword) := by
  have hbounds : ({ c with pattern := none } : Constraints).check label v =
      ((c.checkMin label v).or (c.checkMax label v)).map c.reword := by
    simp only [check, checkPattern, Option.or_none]
    rfl
  rw [hbounds, ← Option.map_or]
  rfl

end Constraints

/-! ## Variables -/

namespace Variable

variable {x : Variable} {v : Value}

theorem check_eq_none_iff (h : v.isVacant = false) :
    x.check v = none ↔
      (x.type = .number → ∃ y, v.number? = some y) ∧
        ∀ c, x.validation = some c → c.check x.label v = none := by
  unfold check
  rw [if_neg (by simp [h])]
  split
  case isTrue hnumber =>
      simp [hnumber.1, Option.isNone_iff_eq_none.1 hnumber.2]
  case isFalse hnumber =>
      have hread : x.type = .number → ∃ y, v.number? = some y := by
        intro htype
        rw [← Option.isSome_iff_exists, Option.isSome_iff_ne_none]
        simpa [htype] using hnumber
      rw [Option.bind_eq_none_iff]
      exact ⟨fun hc => ⟨hread, hc⟩, fun hc => hc.2⟩

/-- A value is missed if it is vacant and required, and never for another reason. -/
theorem check_eq_required_iff {label : String} :
    x.check v = some (.required label) ↔
      v.isVacant = true ∧ x.required = true ∧ x.label = label := by
  unfold check
  split
  case isTrue hvacant =>
      by_cases hrequired : x.required = true
      · simp [hvacant, hrequired]
      · simp [hrequired]
  case isFalse hvacant =>
      split
      case isTrue => simp [hvacant]
      case isFalse =>
          refine iff_of_false ?_ (by simp [hvacant])
          intro h
          obtain ⟨c, -, hc⟩ := Option.bind_eq_some_iff.1 h
          exact Constraints.check_ne_required label hc

/-! ### Fewer constraints -/

/-- The variable with all of its rules but the pattern. -/
def withoutPattern (x : Variable) : Variable :=
  { x with validation := x.validation.map fun c => { c with pattern := none } }

/-- The pattern has the last word, and none about a vacant value. -/
theorem check_eq_or {c : Constraints} (hc : x.validation = some c) (v : Value) :
    x.check v =
      (x.withoutPattern.check v).or
        (if v.isVacant then none else (c.checkPattern x.label v).map c.reword) := by
  simp only [check, withoutPattern, hc, Option.map_some, Option.bind_some]
  split
  case isTrue => rw [Option.or_none]
  case isFalse =>
      split
      case isTrue => rfl
      case isFalse => exact c.check_eq_or x.label v

/-- The variable with all of its rules but the bounds. -/
def withoutBounds (x : Variable) : Variable :=
  { x with validation := x.validation.map fun c => { c with min := none, max := none } }

/-- A number is accepted if it is within the bounds and passes the rest of the check. -/
theorem check_eq_none_iff_bounds {c : Constraints} {y : Binary64} (hc : x.validation = some c)
    (hy : v.number? = some y) :
    x.check v = none ↔
      (∀ min, c.min = some min → y.lt (Binary64.ofInt min) = false) ∧
        (∀ max, c.max = some max → (Binary64.ofInt max).lt y = false) ∧
          x.withoutBounds.check v = none := by
  have hpresent := Value.isVacant_of_number? hy
  have hrest : x.withoutBounds.check v = none ↔ c.checkPattern x.label v = none := by
    rw [check_eq_none_iff hpresent]
    simp [withoutBounds, hc, hy, Constraints.check_eq_none_iff, Constraints.checkMin,
      Constraints.checkMax, Constraints.checkPattern]
  rw [hrest, check_eq_none_iff hpresent]
  simp [hc, hy, Constraints.check_eq_none_iff, Constraints.checkMin_eq_none_iff,
    Constraints.checkMax_eq_none_iff]

end Variable
end FormTemplate
