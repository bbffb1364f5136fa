import FormTemplate.Proofs.Catalog.LastRules
import FormTemplate.Proofs.Validation.Checks

/-!
# Failures — which of several failures is told, and in whose words

One value can fail several checks of its variable.  Each failure is judged here by itself, and the
check tells of the one that comes first in a fixed order.  A message that the variable declares
changes what is told of bounds and patterns, and never whether something is told.

* `Variable.Fails` — a single failure, whatever else is wrong;
* `CheckError.rank`, `Variable.FirstFailure` — the order of the checks, and the failure that none
  precedes;
* `Variable.verdicts`, `Variable.findSome?_verdicts_iff` — what each check finds by itself, and the
  first that finds something;
* `Variable.check_withoutMessage_iff` — without a message, the check tells of the first failure;
* `Variable.check_eq_reword` — a message stands for what would be told without it;
* `first_failure_told` — both together.
-/

namespace FormTemplate

/-! ## Failures -/

namespace CheckError

/-- The place of a failure in the order of the checks. -/
def rank : CheckError → Nat
  | required _ => 0
  | notANumber _ => 1
  | belowMin _ _ => 2
  | aboveMax _ _ => 3
  | patternMismatch _ _ => 4
  | custom _ => 5

end CheckError

namespace Variable

/-- A failure of a value, without regard to any other.  Bounds are about numbers only, and a pattern
that is not usable has nothing to say. -/
inductive Fails (x : Variable) (v : Value) : CheckError → Prop
  | required (hvacant : v.isVacant = true) (hrequired : x.required = true) :
      Fails x v (.required x.label)
  | notANumber (htype : x.type = .number) (hnumber : v.number? = none) :
      Fails x v (.notANumber x.label)
  | belowMin {min : Int} {y : Binary64} (hmin : x.constraints.min = some min)
      (hnumber : v.number? = some y) (hlt : y.lt (Binary64.ofInt min) = true) :
      Fails x v (.belowMin x.label min)
  | aboveMax {max : Int} {y : Binary64} (hmax : x.constraints.max = some max)
      (hnumber : v.number? = some y) (hlt : (Binary64.ofInt max).lt y = true) :
      Fails x v (.aboveMax x.label max)
  | patternMismatch {source : String} {p : Pattern Atom}
      (hpattern : x.constraints.pattern = some source)
      (hcompile : Pattern.compile? source = some p) (hfinds : p.finds v.text = false) :
      Fails x v (.patternMismatch x.label source)

/-- The failure that none precedes.  A value that is vacant and need not be there has none. -/
structure FirstFailure (x : Variable) (v : Value) (e : CheckError) : Prop where
  due : v.isVacant = true → x.required = true
  fails : x.Fails v e
  first : ∀ e', x.Fails v e' → e.rank ≤ e'.rank

variable {x : Variable} {v : Value} {e : CheckError}

/-! ### All failures in order -/

/-- What each check by itself has to say, in the order of the checks. -/
def verdicts (x : Variable) (v : Value) : List (Option CheckError) :=
  [if v.isVacant ∧ x.required then some (.required x.label) else none,
    if x.type = .number ∧ v.number?.isNone then some (.notANumber x.label) else none,
    x.constraints.checkMin x.label v, x.constraints.checkMax x.label v,
    x.constraints.checkPattern x.label v]

theorem mem_verdicts_iff : some e ∈ x.verdicts v ↔ x.Fails v e := by
  simp only [verdicts, List.mem_cons, List.not_mem_nil, or_false, eq_comm (a := some e),
    Option.ite_none_right_eq_some, Option.some.injEq, Constraints.checkMin_eq_some_iff,
    Constraints.checkMax_eq_some_iff, Constraints.checkPattern_eq_some_iff]
  constructor
  · rintro (⟨⟨hvacant, hrequired⟩, rfl⟩ | ⟨⟨htype, hnumber⟩, rfl⟩ | ⟨min, y, hmin, hy, hlt, rfl⟩ |
      ⟨max, y, hmax, hy, hlt, rfl⟩ | ⟨source, p, hsource, hp, hfinds, rfl⟩)
    · exact .required hvacant hrequired
    · exact .notANumber htype (Option.isNone_iff_eq_none.1 hnumber)
    · exact .belowMin hmin hy hlt
    · exact .aboveMax hmax hy hlt
    · exact .patternMismatch hsource hp hfinds
  · intro h
    cases h with
    | required hvacant hrequired => exact .inl ⟨⟨hvacant, hrequired⟩, rfl⟩
    | notANumber htype hnumber => exact .inr (.inl ⟨⟨htype, by rw [hnumber]; rfl⟩, rfl⟩)
    | belowMin hmin hnumber hlt => exact .inr (.inr (.inl ⟨_, _, hmin, hnumber, hlt, rfl⟩))
    | aboveMax hmax hnumber hlt => exact .inr (.inr (.inr (.inl ⟨_, _, hmax, hnumber, hlt, rfl⟩)))
    | patternMismatch hpattern hcompile hfinds =>
        exact .inr (.inr (.inr (.inr ⟨_, _, hpattern, hcompile, hfinds, rfl⟩)))

/-- The failure that the check at place `i` finds has rank `i`. -/
theorem rank_of_verdict {i : Nat} (h : (x.verdicts v)[i]? = some (some e)) : e.rank = i := by
  obtain ⟨hi, hverdict⟩ := List.getElem?_eq_some_iff.1 h
  have hcases : i = 0 ∨ i = 1 ∨ i = 2 ∨ i = 3 ∨ i = 4 := by
    have hlength : (x.verdicts v).length = 5 := rfl
    omega
  rcases hcases with rfl | rfl | rfl | rfl | rfl
  · obtain ⟨-, he⟩ := Option.ite_none_right_eq_some.1 hverdict
    cases he
    rfl
  · obtain ⟨-, he⟩ := Option.ite_none_right_eq_some.1 hverdict
    cases he
    rfl
  · obtain ⟨_, _, -, -, -, rfl⟩ := Constraints.checkMin_eq_some_iff.1 hverdict
    rfl
  · obtain ⟨_, _, -, -, -, rfl⟩ := Constraints.checkMax_eq_some_iff.1 hverdict
    rfl
  · obtain ⟨_, _, -, -, -, rfl⟩ := Constraints.checkPattern_eq_some_iff.1 hverdict
    rfl

/-- The check at the place of its rank is the only one that finds a failure. -/
theorem getElem?_verdicts_iff : (x.verdicts v)[e.rank]? = some (some e) ↔ x.Fails v e := by
  rw [← mem_verdicts_iff]
  constructor
  · exact List.mem_of_getElem?
  · intro hmem
    obtain ⟨i, hi⟩ := List.mem_iff_getElem?.1 hmem
    rwa [rank_of_verdict hi]

/-- The first failure that is found is the one that none precedes. -/
theorem findSome?_verdicts_iff :
    (x.verdicts v).findSome? id = some e ↔
      x.Fails v e ∧ ∀ e', x.Fails v e' → e.rank ≤ e'.rank := by
  have hleast : ∀ e, (x.verdicts v).findSome? id = some e →
      x.Fails v e ∧ ∀ e', x.Fails v e' → e.rank ≤ e'.rank := by
    intro e h
    obtain ⟨before, _, after, hverdicts, rfl, hbefore⟩ := List.findSome?_eq_some_iff.1 h
    have hplace : (x.verdicts v)[before.length]? = some (some e) := by
      simp [hverdicts]
    refine ⟨mem_verdicts_iff.1 (List.mem_of_getElem? hplace), ?_⟩
    intro e' he'
    rw [rank_of_verdict hplace]
    by_contra hlt
    -- what stands further in front is no failure
    have hfront := getElem?_verdicts_iff.2 he'
    rw [hverdicts, List.getElem?_append_left (by omega)] at hfront
    cases hbefore _ (List.mem_of_getElem? hfront)
  constructor
  · exact hleast e
  · -- two failures that neither precedes have one rank, and so one place in the list
    rintro ⟨hfails, hfirst⟩
    cases hfound : (x.verdicts v).findSome? id with
    | none => cases List.findSome?_eq_none_iff.1 hfound _ (mem_verdicts_iff.2 hfails)
    | some found =>
        obtain ⟨hfound', hfoundFirst⟩ := hleast found hfound
        have hplace := getElem?_verdicts_iff.2 hfound'
        rw [le_antisymm (hfoundFirst e hfails) (hfirst found hfound'),
          getElem?_verdicts_iff.2 hfails] at hplace
        exact (Option.some.inj hplace).symm

/-! ## Without a message -/

/-- The variable with all of its rules but the message. -/
def withoutMessage (x : Variable) : Variable :=
  { x with validation := x.validation.map fun c => { c with message := none } }

/-- Constraints without a message tell of bounds and patterns as they are. -/
theorem bind_check_withoutMessage (x : Variable) (v : Value) :
    (x.withoutMessage.validation.bind fun c => c.check x.label v) =
      ((x.constraints.checkMin x.label v).or (x.constraints.checkMax x.label v)).or
        (x.constraints.checkPattern x.label v) := by
  unfold withoutMessage constraints
  cases x.validation with
  | none => rfl
  | some c =>
      simp only [Option.map_some, Option.bind_some, Constraints.check, Option.map_none,
        Option.getD_none, Option.map_id', Option.getD_some]
      rfl

theorem check_withoutMessage_eq (x : Variable) (v : Value) :
    x.withoutMessage.check v =
      if v.isVacant then
        if x.required then some (.required x.label) else none
      else if x.type = .number ∧ v.number?.isNone then some (.notANumber x.label)
      else ((x.constraints.checkMin x.label v).or (x.constraints.checkMax x.label v)).or
        (x.constraints.checkPattern x.label v) := by
  rw [← bind_check_withoutMessage]
  rfl

theorem findSome?_id_cons (o : Option CheckError) (os : List (Option CheckError)) :
    (o :: os).findSome? id = o.or (os.findSome? id) := by
  cases o <;> rfl

/-- The checks of a value that is there or has to be. -/
theorem check_withoutMessage (hdue : v.isVacant = true → x.required = true) :
    x.withoutMessage.check v = (x.verdicts v).findSome? id := by
  simp only [verdicts, findSome?_id_cons, List.findSome?_nil, Option.or_none,
    check_withoutMessage_eq]
  by_cases hvacant : v.isVacant = true
  · simp [hvacant, hdue hvacant]
  · -- the search goes past the first check, and so does the check of a value that is there
    have hmissed : ¬ (v.isVacant = true ∧ x.required = true) := fun h => hvacant h.1
    rw [if_neg hvacant, if_neg hmissed, Option.none_or]
    by_cases hunread : x.type = .number ∧ v.number?.isNone = true
    · rw [if_pos hunread, if_pos hunread, Option.some_or]
    · rw [if_neg hunread, if_neg hunread, Option.none_or, Option.or_assoc]

theorem check_of_not_due (hdue : ¬ (v.isVacant = true → x.required = true)) :
    x.check v = none := by
  rw [Classical.not_imp] at hdue
  simp [check, hdue.1, hdue.2]

/-- Without a message, the first failure is told. -/
theorem check_withoutMessage_iff : x.withoutMessage.check v = some e ↔ x.FirstFailure v e := by
  by_cases hdue : v.isVacant = true → x.required = true
  · rw [check_withoutMessage hdue, findSome?_verdicts_iff]
    exact ⟨fun h => ⟨hdue, h.1, h.2⟩, fun h => ⟨h.fails, h.first⟩⟩
  · -- the checks may have something to say, but they are not made
    rw [check_of_not_due (x := x.withoutMessage) hdue]
    exact iff_of_false nofun fun h => hdue h.due

theorem check_withoutMessage_eq_none_iff :
    x.withoutMessage.check v = none ↔
      v.isVacant = true ∧ x.required = false ∨ ∀ e, ¬ x.Fails v e := by
  by_cases hdue : v.isVacant = true → x.required = true
  · have hpresent : ¬ (v.isVacant = true ∧ x.required = false) := fun h => by
      simp [hdue h.1] at h
    rw [check_withoutMessage hdue, or_iff_right hpresent]
    constructor
    · intro hnone e he
      cases List.findSome?_eq_none_iff.1 hnone _ (mem_verdicts_iff.2 he)
    · intro hfails
      refine List.findSome?_eq_none_iff.2 ?_
      rintro (_ | e) he
      · rfl
      · exact absurd (mem_verdicts_iff.1 he) (hfails e)
  · refine iff_of_true (check_of_not_due (x := x.withoutMessage) hdue) (.inl ?_)
    simpa using hdue

/-! ## With a message -/

/-- What is told in place of a failure. -/
def reword (x : Variable) (e : CheckError) : CheckError :=
  match e with
  | .belowMin _ _ | .aboveMax _ _ | .patternMismatch _ _ => x.constraints.reword e
  | e => e

theorem reword_of_ruled (h : e.Ruled) : x.reword e = x.constraints.reword e := by
  cases h <;> rfl

theorem reword_of_not_ruled (h : ¬ e.Ruled) : x.reword e = e := by
  cases e with
  | belowMin label min => exact absurd (.belowMin label min) h
  | aboveMax label max => exact absurd (.aboveMax label max) h
  | patternMismatch label pattern => exact absurd (.patternMismatch label pattern) h
  | required label => rfl
  | notANumber label => rfl
  | custom message => rfl

theorem bind_check_eq_reword (x : Variable) (v : Value) :
    (x.validation.bind fun c => c.check x.label v) =
      (((x.constraints.checkMin x.label v).or (x.constraints.checkMax x.label v)).or
        (x.constraints.checkPattern x.label v)).map x.reword := by
  cases hvalidation : x.validation with
  | none =>
      rw [constraints, hvalidation]
      rfl
  | some c =>
      have hconstraints : x.constraints = c := by
        rw [constraints, hvalidation, Option.getD_some]
      rw [hconstraints, Option.bind_some]
      refine Option.map_congr ?_
      intro e he
      rw [reword_of_ruled (Constraints.ruled_of_failed he), hconstraints]
      rfl

/-- A message stands for what would be told without it, if that is about a bound or a pattern. -/
theorem check_eq_reword (x : Variable) (v : Value) :
    x.check v = (x.withoutMessage.check v).map x.reword := by
  rw [check, check_withoutMessage_eq]
  by_cases hvacant : v.isVacant = true
  · rw [if_pos hvacant, if_pos hvacant]
    split <;> rfl
  · rw [if_neg hvacant, if_neg hvacant]
    by_cases hunread : x.type = .number ∧ v.number?.isNone = true
    · rw [if_pos hunread, if_pos hunread]
      rfl
    · rw [if_neg hunread, if_neg hunread, bind_check_eq_reword]

theorem Fails.ne_custom (h : x.Fails v e) (message : String) : e ≠ .custom message := by
  rintro rfl
  cases h

/-- What a message is told for. -/
theorem reword_eq_custom_iff {message : String} (h : x.Fails v e) :
    x.reword e = .custom message ↔ x.constraints.message = some message ∧ e.Ruled := by
  by_cases hruled : e.Ruled
  · rw [reword_of_ruled hruled, Constraints.reword]
    cases x.constraints.message with
    | none => simp [h.ne_custom]
    | some m => simp [hruled]
  · rw [reword_of_not_ruled hruled]
    exact iff_of_false (h.ne_custom message) fun hreplaced => hruled hreplaced.2

end Variable

/-- The check of a variable without a message tells of the first failure, in the order of presence,
number, lower bound, upper bound and pattern; it accepts what may be left out and is, and what fails
nothing.  A message takes the place of a failed bound or pattern, and makes no other difference. -/
theorem first_failure_told (x : Variable) (v : Value) :
    let plain := x.withoutMessage.check v
    (∀ e, plain = some e ↔ x.FirstFailure v e) ∧
      (plain = none ↔ v.isVacant = true ∧ x.required = false ∨ ∀ e, ¬ x.Fails v e) ∧
      (x.check v = none ↔ plain = none) ∧
      (∀ message, x.check v = some (.custom message) ↔
        x.constraints.message = some message ∧ ∃ e, plain = some e ∧ e.Ruled) ∧
      (x.constraints.message = none ∨ (∀ e, plain = some e → ¬ e.Ruled) → x.check v = plain) := by
  intro plain
  have hplain : ∀ e, plain = some e ↔ x.FirstFailure v e := fun e =>
    Variable.check_withoutMessage_iff
  have hcheck : x.check v = plain.map x.reword := x.check_eq_reword v
  have hcustom : ∀ e message, plain = some e → (x.reword e = .custom message ↔
      x.constraints.message = some message ∧ e.Ruled) := fun e message he =>
    Variable.reword_eq_custom_iff ((hplain e).1 he).fails
  refine ⟨hplain, Variable.check_withoutMessage_eq_none_iff, ?_, ?_, ?_⟩
  · rw [hcheck, Option.map_eq_none_iff]
  · intro message
    rw [hcheck, Option.map_eq_some_iff]
    constructor
    · rintro ⟨e, he, hreword⟩
      obtain ⟨hmessage, hruled⟩ := (hcustom e message he).1 hreword
      exact ⟨hmessage, e, he, hruled⟩
    · rintro ⟨hmessage, e, he, hruled⟩
      exact ⟨e, he, (hcustom e message he).2 ⟨hmessage, hruled⟩⟩
  · intro hkept
    rw [hcheck]
    cases he : plain with
    | none => rfl
    | some e =>
        refine congrArg some ?_
        by_cases hruled : e.Ruled
        · -- a bound or a pattern, and so there is no message
          have hmessage := hkept.resolve_right fun h => h e he hruled
          rw [Variable.reword_of_ruled hruled, Constraints.reword, hmessage]
          rfl
        · exact Variable.reword_of_not_ruled hruled

end FormTemplate
