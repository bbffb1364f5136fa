import FormTemplate.Proofs.Catalog.LastRules
import FormTemplate.Proofs.Catalog.Rules
import FormTemplate.Proofs.Decimal.Integers
import FormTemplate.Proofs.Validation.Checks

/-!
# Loosening — a variable that asks for less accepts no less

A check stops at the first thing that is wrong, so that two variables can reject one value for
different reasons and with different messages.  What is accepted can be compared all the same, since
a value is accepted if nothing at all is wrong with it.

* `Constraints.Loosens`, `Variable.Loosens` — constraints and variables that ask for no more than
  others;
* `Constraints.checkMin_of_loosens`, `Constraints.checkMax_of_loosens` — bounds that are moved
  outwards stay so when they are rounded to doubles;
* `accepted_of_loosens` — what is accepted for a variable is accepted for one that loosens it.
-/

namespace FormTemplate

open Binary64

/-! ## Constraints -/

namespace Constraints

/-- Each constraint of `c` is one of `e`, or a bound that lies further out than that of `e`. -/
structure Loosens (c e : Constraints) : Prop where
  min : ∀ n, c.min = some n → ∃ m, e.min = some m ∧ n ≤ m
  max : ∀ n, c.max = some n → ∃ m, e.max = some m ∧ m ≤ n
  pattern : ∀ source, c.pattern = some source → e.pattern = some source

variable {c e : Constraints} {l l' : String} {v : Value}

theorem BoundsFit.inRange (h : c.BoundsFit) {n : Int} (hn : c.min = some n ∨ c.max = some n) :
    InRange n :=
  (Text.fitsWord_of_fitsInt64 (h n hn)).inRange

theorem checkMin_of_loosens (h : c.Loosens e) (hc : c.BoundsFit) (he : e.BoundsFit)
    (hpass : e.checkMin l v = none) : c.checkMin l' v = none := by
  rw [checkMin_eq_none_iff] at hpass ⊢
  intro n y hn hy
  obtain ⟨m, hm, hle⟩ := h.min n hn
  have hscaled := scaled_ofInt_le (hc.inRange (.inl hn)) (he.inRange (.inl hm)) hle
  have hlow := hpass m y hm hy
  rw [lt, decide_eq_false_iff_not, not_lt] at hlow ⊢
  exact hscaled.trans hlow

theorem checkMax_of_loosens (h : c.Loosens e) (hc : c.BoundsFit) (he : e.BoundsFit)
    (hpass : e.checkMax l v = none) : c.checkMax l' v = none := by
  rw [checkMax_eq_none_iff] at hpass ⊢
  intro n y hn hy
  obtain ⟨m, hm, hle⟩ := h.max n hn
  have hscaled := scaled_ofInt_le (he.inRange (.inr hm)) (hc.inRange (.inr hn)) hle
  have hhigh := hpass m y hm hy
  rw [lt, decide_eq_false_iff_not, not_lt] at hhigh ⊢
  exact hhigh.trans hscaled

theorem checkPattern_of_loosens (h : c.Loosens e) (hpass : e.checkPattern l v = none) :
    c.checkPattern l' v = none := by
  rw [checkPattern_eq_none_iff] at hpass ⊢
  intro source hsource
  exact hpass source (h.pattern source hsource)

theorem check_of_loosens (h : c.Loosens e) (hc : c.BoundsFit) (he : e.BoundsFit)
    (hpass : e.check l v = none) : c.check l' v = none := by
  obtain ⟨hmin, hmax, hpattern⟩ := check_eq_none_iff.1 hpass
  exact check_eq_none_iff.2 ⟨checkMin_of_loosens h hc he hmin, checkMax_of_loosens h hc he hmax,
    checkPattern_of_loosens h hpattern⟩

theorem boundsFit_empty : ({} : Constraints).BoundsFit := by
  rintro n (hn | hn) <;> cases hn

end Constraints

/-! ## Variables -/

namespace Variable

/-- `y` has the type of `x` and asks for no more than `x` does. -/
structure Loosens (y x : Variable) : Prop where
  type : y.type = x.type
  required : y.required = true → x.required = true
  constraints : y.constraints.Loosens x.constraints

variable {x y : Variable} {v : Value}

theorem boundsFit_constraints (h : x.BoundsFit) : x.constraints.BoundsFit := by
  unfold constraints
  cases hc : x.validation with
  | none => exact Constraints.boundsFit_empty
  | some c => exact h c hc

/-- A variable without a record of constraints is checked as one with an empty record. -/
theorem forall_check_iff {l : String} :
    (∀ c, x.validation = some c → c.check l v = none) ↔ x.constraints.check l v = none := by
  unfold constraints
  cases x.validation with
  | none => simp [Constraints.check_empty]
  | some c => simp

/-- Nothing is wrong with a vacant value unless one is required. -/
theorem check_of_vacant (hvacant : v.isVacant = true) :
    x.check v = none ↔ ¬ x.required = true := by
  rw [check, if_pos hvacant]
  cases x.required <;> simp

end Variable

/-- A variable that asks for less accepts no less: with the same type, required only if the other one
is, bounds that lie further out or are not there, and the same pattern or none, it accepts every
value that the other one accepts.  Labels and messages make no difference. -/
theorem accepted_of_loosens {x y : Variable} (h : y.Loosens x) (hx : x.BoundsFit)
    (hy : y.BoundsFit) {v : Value} (haccepted : x.check v = none) : y.check v = none := by
  by_cases hvacant : v.isVacant = true
  · rw [Variable.check_of_vacant hvacant] at haccepted ⊢
    exact mt h.required haccepted
  · -- that nothing is wrong is said check by check, whichever comes first
    have hpresent : v.isVacant = false := by simpa using hvacant
    rw [Variable.check_eq_none_iff hpresent, Variable.forall_check_iff] at haccepted ⊢
    refine ⟨?_, ?_⟩
    · rw [h.type]
      exact haccepted.1
    · exact Constraints.check_of_loosens h.constraints (Variable.boundsFit_constraints hy)
        (Variable.boundsFit_constraints hx) haccepted.2

/-- A bound of 54 bits is rounded down, so that the number below it is accepted, as it is when the bound
is lowered to that number. -/
theorem accepted_of_loosens_rounded :
    let x : Variable := { Variable.new "n" "N" .number with
      required := true
      validation := some
        { min := some 9007199254740993, max := some 9007199254740994, pattern := some "2$"
          message := some "out of range" } }
    let y : Variable := { Variable.new "n" "N" .number with
      validation := some { min := some 9007199254740992, pattern := some "2$" } }
    let v : Value := .number (.integer 9007199254740992)
    (y.Loosens x ∧ x.BoundsFit ∧ y.BoundsFit ∧ x.check v = none) ∧ y.check v = none := by
  intro x y v
  have hloosens : y.Loosens x := by
    refine ⟨rfl, nofun, ?_, nofun, ?_⟩
    · rintro n ⟨⟩
      exact ⟨_, rfl, by decide⟩
    · rintro source ⟨⟩
      rfl
  have hx : x.BoundsFit := by
    rintro c ⟨⟩ n (hn | hn) <;> cases hn <;> decide
  have hy : y.BoundsFit := by
    rintro c ⟨⟩ n (hn | hn) <;> cases hn
    decide
  have haccepted : x.check v = none := by
    decide +kernel
  exact ⟨⟨hloosens, hx, hy, haccepted⟩, accepted_of_loosens hloosens hx hy haccepted⟩

end FormTemplate
