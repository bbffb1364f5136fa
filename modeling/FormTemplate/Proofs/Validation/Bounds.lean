import FormTemplate.Check
import FormTemplate.Proofs.Decimal.Integers

/-!
# Bounds — integers against integer bounds

Bounds are integers and so may the value be, but what is compared are their doubles.

* `checkMin_integer`, `checkMax_integer` — what a single bound says of an integer;
* `Variable.check_integer_eq_bounds` — the whole check of an integer, which differs from the order of
  integers only where value and bound are beyond `2 ^ 53` and fall on the same double.
-/

namespace FormTemplate

open Binary64

/-! ## One bound -/

theorem sameDouble_comm {m n : Int} : SameDouble m n ↔ SameDouble n m :=
  eq_comm

namespace Constraints

variable {c : Constraints} {label : String} {v : Int}

theorem checkMin_integer (hv : Number.FitsWord v)
    (hmin : ∀ n, c.min = some n → Text.fitsInt64 n = true) :
    c.checkMin label (.number (.integer v)) =
      (c.min.filter fun n => v < n ∧ ¬ SameDouble v n).map (.belowMin label) := by
  unfold checkMin
  cases hc : c.min with
  | none => rfl
  | some n =>
      have hn := (Text.fitsWord_of_fitsInt64 (hmin n hc)).inRange
      by_cases h : v < n ∧ ¬ SameDouble v n
      · simp [Value.number?, Number.toBinary64, (lt_ofInt_iff hv.inRange hn).2 h, h]
      · have hlt : (ofInt v).lt (ofInt n) = false := by
          rw [← Bool.not_eq_true, lt_ofInt_iff hv.inRange hn]
          exact h
        simp [Value.number?, Number.toBinary64, hlt, Option.filter, h]

theorem checkMax_integer (hv : Number.FitsWord v)
    (hmax : ∀ n, c.max = some n → Text.fitsInt64 n = true) :
    c.checkMax label (.number (.integer v)) =
      (c.max.filter fun n => n < v ∧ ¬ SameDouble v n).map (.aboveMax label) := by
  unfold checkMax
  cases hc : c.max with
  | none => rfl
  | some n =>
      have hn := (Text.fitsWord_of_fitsInt64 (hmax n hc)).inRange
      by_cases h : n < v ∧ ¬ SameDouble v n
      · simp [Value.number?, Number.toBinary64,
          (lt_ofInt_iff hn hv.inRange).2 ⟨h.1, h.2 ∘ sameDouble_comm.1⟩, h]
      · have hlt : (ofInt n).lt (ofInt v) = false := by
          rw [← Bool.not_eq_true, lt_ofInt_iff hn hv.inRange, sameDouble_comm]
          exact h
        simp [Value.number?, Number.toBinary64, hlt, Option.filter, h]

/-- With neither pattern nor message, the bounds alone decide. -/
theorem check_of_bounds (v : Value) (hpattern : c.pattern = none) (hmessage : c.message = none) :
    c.check label v = (c.checkMin label v).or (c.checkMax label v) := by
  simp [check, checkPattern, hpattern, hmessage]

end Constraints

/-! ## The check of an integer -/

namespace Variable

/-- An integer is below the least value if it is so as an integer and the two are not rounded to the
same double, and likewise for the greatest value.  Only numbers beyond `2 ^ 53` are affected. -/
theorem check_integer_eq_bounds {x : Variable} {c : Constraints} {v : Int}
    (hx : x.validation = some c) (hpattern : c.pattern = none) (hmessage : c.message = none)
    (hmin : ∀ n, c.min = some n → Text.fitsInt64 n = true)
    (hmax : ∀ n, c.max = some n → Text.fitsInt64 n = true) (hv : Number.FitsWord v) :
    x.check (.number (.integer v)) =
        ((c.min.filter fun n => v < n ∧ ¬ SameDouble v n).map (.belowMin x.label)).or
          ((c.max.filter fun n => n < v ∧ ¬ SameDouble v n).map (.aboveMax x.label)) ∧
      ∀ n, c.min = some n ∨ c.max = some n → v ≠ n → SameDouble v n →
        2 ^ 53 ≤ v.natAbs ∧ 2 ^ 53 ≤ n.natAbs := by
  refine ⟨?_, ?_⟩
  · have hpresent : Value.isVacant (.number (.integer v)) = false := rfl
    have hnumber : (Value.number? (.number (.integer v))).isNone = false := rfl
    simp only [check, hpresent, hnumber, hx, Option.bind_some, and_false, if_false,
      Bool.false_eq_true]
    rw [Constraints.check_of_bounds _ hpattern hmessage, Constraints.checkMin_integer hv hmin,
      Constraints.checkMax_integer hv hmax]
  · intro n hn hne hsame
    have hrange : InRange n := by
      rcases hn with hn | hn
      · exact (Text.fitsWord_of_fitsInt64 (hmin n hn)).inRange
      · exact (Text.fitsWord_of_fitsInt64 (hmax n hn)).inRange
    exact ⟨le_natAbs_of_sameDouble hv.inRange hrange hne hsame,
      le_natAbs_of_sameDouble hrange hv.inRange hne.symm (sameDouble_comm.1 hsame)⟩

/-- Two below an odd bound of 54 bits, an integer is rejected. -/
theorem check_integer_below_min :
    let x : Variable :=
      { new "n" "N" .number with validation := some { min := some 9007199254740993 } }
    x.check (.number (.integer 9007199254740991)) = some (.belowMin "N" 9007199254740993) := by
  intro x
  have hx : x.validation = some { min := some 9007199254740993 } := rfl
  rw [(check_integer_eq_bounds hx rfl rfl (by decide) (by decide) ⟨by decide, by decide⟩).1]
  decide +kernel

/-- One below that bound, an integer is rounded to the same double and accepted: bounds are not exact
on integers. -/
theorem not_check_integer_exact :
    ¬ ∀ (x : Variable) (c : Constraints) (v : Int), x.validation = some c → c.pattern = none →
      c.message = none → (∀ n, c.min = some n → Text.fitsInt64 n = true) →
      (∀ n, c.max = some n → Text.fitsInt64 n = true) → Number.FitsWord v →
      x.check (.number (.integer v)) =
        ((c.min.filter fun n => v < n).map (.belowMin x.label)).or
          ((c.max.filter fun n => n < v).map (.aboveMax x.label)) := by
  intro h
  let x : Variable :=
    { new "n" "N" .number with validation := some { min := some 9007199254740993 } }
  have hexact := h x { min := some 9007199254740993 } 9007199254740992 rfl rfl rfl
    (by decide) (by decide) ⟨by decide, by decide⟩
  have haccepted : x.check (.number (.integer 9007199254740992)) = none := by
    decide +kernel
  rw [haccepted] at hexact
  cases hexact

end Variable
end FormTemplate
