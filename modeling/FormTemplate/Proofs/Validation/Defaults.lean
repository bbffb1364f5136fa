import FormTemplate.Proofs.Catalog.LastRules
import FormTemplate.Proofs.Catalog.RuleLists
import FormTemplate.Proofs.Decimal.Layout
import FormTemplate.Proofs.Validation.Checks

/-!
# Defaults — a default is checked as the text that declares it

The text of a default is stored as a number or a truth value where the type of the variable has such
values.  A value that is supplied for the variable as text stays text, and is read as a number only
when it is checked.  The two readings are not the same: an integer of 64 bits is read as such for a
default, and as a decimal number otherwise.  But they give doubles that compare alike, and the check
does not look further, except for patterns.

* `Value.Alike` — values that no check but that of a pattern tells apart;
* `Variable.check_of_alike` — so they are checked alike;
* `Variable.number?_typedDefault` — the number of a default is the number of its text;
* `Variable.alike_typedDefault` — so a default and its text are such values;
* `Variable.typedDefault_number_iff` — the texts of a number field that are stored as numbers;
* `default_checked_as_text` — the rule that declares the default, and what becomes of its text.
-/

namespace FormTemplate

open Text (Trimmed)

/-! ## Values that are checked alike -/

/-- Both are values, and both stand for no number or for numbers that compare alike. -/
structure Value.Alike (v w : Value) : Prop where
  present : v.isVacant = false ∧ w.isVacant = false
  number : v.number?.map Binary64.scaled = w.number?.map Binary64.scaled

variable {v w : Value}

theorem Value.Alike.isNone_number? (h : v.Alike w) : v.number?.isNone = w.number?.isNone := by
  rw [← Option.isNone_map (f := Binary64.scaled), h.number, Option.isNone_map]

namespace Constraints

variable {c : Constraints}

theorem checkMin_of_alike (h : v.Alike w) (label : String) :
    c.checkMin label v = c.checkMin label w := by
  have hnumber := h.number
  unfold checkMin Binary64.lt
  cases c.min with
  | none => rfl
  | some min => cases hv : v.number? <;> cases hw : w.number? <;> simp_all

theorem checkMax_of_alike (h : v.Alike w) (label : String) :
    c.checkMax label v = c.checkMax label w := by
  have hnumber := h.number
  unfold checkMax Binary64.lt
  cases c.max with
  | none => rfl
  | some max => cases hv : v.number? <;> cases hw : w.number? <;> simp_all

theorem check_of_alike (hpattern : c.pattern = none) (h : v.Alike w) (label : String) :
    c.check label v = c.check label w := by
  simp only [check, checkPattern, hpattern, checkMin_of_alike h, checkMax_of_alike h]

end Constraints

namespace Variable

variable {x : Variable}

theorem check_of_alike (hpattern : x.constraints.pattern = none) (h : v.Alike w) :
    x.check v = x.check w := by
  simp only [check, h.present.1, h.present.2, h.isNone_number?]
  cases hc : x.validation with
  | none => rfl
  | some c =>
      have hnone : c.pattern = none := by
        simpa [constraints, hc] using hpattern
      rw [Option.bind_some, Option.bind_some, Constraints.check_of_alike hnone h]

/-! ## Defaults -/

/-- The number of a default is the one that is read from its text, up to the sign of a zero. -/
theorem number?_typedDefault (type : FieldType) {raw : String} (htrimmed : Trimmed raw.toList) :
    (typedDefault type raw).number?.map Binary64.scaled =
      (Value.string raw).number?.map Binary64.scaled := by
  cases type with
  | number =>
      have htext : (Value.string raw).number? = Text.readReal? raw.toList := by
        rw [Value.number?, htrimmed.trim_eq]
      rw [htext, typedDefault]
      cases hint : Text.readInt64? raw.toList with
      | some n =>
          -- the decimal number of the text is rounded to the double that is nearest to the integer
          obtain ⟨hnumeral, hfits⟩ := Text.readInt64?_eq_some_iff.1 hint
          have hrange := (Text.fitsWord_of_fitsInt64 hfits).inRange
          obtain ⟨y, hread, hscaled⟩ := Binary64.exists_readReal?_numeral hnumeral hrange
          rw [hread, Option.map_some, hscaled]
          rfl
      | none =>
          cases hreal : Text.readReal? raw.toList with
          | some z => rfl
          | none => simp only [htext, hreal]
  | boolean =>
      -- neither of the texts that become truth values is that of a number
      unfold typedDefault
      by_cases htrue : raw = "true"
      · subst htrue
        decide +kernel
      · by_cases hfalse : raw = "false"
        · subst hfalse
          decide +kernel
        · rw [if_neg htrue, if_neg hfalse]
  | text => rfl
  | date => rfl
  | select => rfl
  | textarea => rfl

theorem alike_typedDefault (type : FieldType) {raw : String} (hne : raw ≠ "")
    (htrimmed : Trimmed raw.toList) : (typedDefault type raw).Alike (.string raw) where
  present := ⟨(defaultOf_typedDefault type htrimmed hne).isVacant_eq_false,
    htrimmed.allBlank_eq_false (by simpa using hne)⟩
  number := number?_typedDefault type htrimmed

/-- A default of a number field is stored as a number if its text is read as one. -/
theorem typedDefault_number_iff {raw : String} (hne : raw ≠ "") (htrimmed : Trimmed raw.toList) :
    (∃ n, typedDefault .number raw = .number n) ↔ ∃ z, (Value.string raw).number? = some z := by
  have hnumber := number?_typedDefault .number htrimmed
  have hdefault := defaultOf_typedDefault .number htrimmed hne
  generalize typedDefault .number raw = v at hnumber hdefault
  cases hdefault with
  | number n =>
      obtain ⟨z, hz, -⟩ := Option.map_eq_some_iff.1 hnumber.symm
      exact iff_of_true ⟨n, rfl⟩ ⟨z, hz⟩
  | string _ not_number =>
      rw [not_number rfl, Option.map_none, eq_comm, Option.map_eq_none_iff] at hnumber
      rw [hnumber]
      exact iff_of_false nofun nofun

end Variable

/-- The rule `default=raw` gives a variable a default and changes nothing else.  Unless the variable has
a pattern, the check accepts that default if it accepts the text, and tells of the same failure if it
does not.  For a number field the default is a number if the check reads the text as one. -/
theorem default_checked_as_text {x : Variable} {raw : String}
    (hpattern : x.constraints.pattern = none) (hne : raw ≠ "") (htrimmed : Trimmed raw.toList)
    (hcomma : ',' ∉ raw.toList) :
    let y := x.applyRules ("default=" ++ raw).toList
    ∃ v, y = { x with default := some v } ∧ y.check v = y.check (.string raw) ∧
      (x.type = .number →
        ((∃ n, v = .number n) ↔ ∃ z, Value.number? (.string raw) = some z)) := by
  intro y
  -- the text is a rule list with one rule, which sets the default and leaves the rest alone
  have hrule : Rule.Writable (.default raw) := ⟨hne, hcomma, htrimmed⟩
  have htext : ("default=" ++ raw).toList = Rule.text (.default raw) := by
    rw [String.toList_append]
    rfl
  have hy : y = x.applyRule (.default raw) := by
    simp only [y, Variable.applyRules, htext, hrule.reads_text.parseList_eq, List.foldl_cons,
      List.foldl_nil]
  refine ⟨_, hy, ?_, ?_⟩
  · rw [hy]
    exact Variable.check_of_alike hpattern (Variable.alike_typedDefault x.type hne htrimmed)
  · intro htype
    rw [htype]
    exact Variable.typedDefault_number_iff hne htrimmed

/-- An integer of 54 bits with a sign and zeros in front is stored as an integer, and its text is read
as a decimal number.  Both are rounded to the lower bound. -/
theorem default_checked_as_text_rounded :
    let x : Variable :=
      { Variable.new "n" "N" .number with validation := some { min := some 9007199254740992 } }
    let raw := "+009007199254740993"
    let y := x.applyRules ("default=" ++ raw).toList
    (x.constraints.pattern = none ∧ raw ≠ "" ∧ Trimmed raw.toList ∧ ',' ∉ raw.toList) ∧
      ∃ v, y = { x with default := some v } ∧ y.check v = y.check (.string raw) ∧
        (x.type = .number →
          ((∃ n, v = .number n) ↔ ∃ z, Value.number? (.string raw) = some z)) := by
  have hnonblank : ("+009007199254740993".toList.all fun c => !Text.isBlank c) = true := by decide
  have htrimmed : Trimmed "+009007199254740993".toList :=
    .of_nonblank fun c hc => by simpa using List.all_eq_true.1 hnonblank c hc
  have hcomma : ',' ∉ "+009007199254740993".toList := by decide
  exact ⟨⟨rfl, by decide, htrimmed, hcomma⟩,
    default_checked_as_text rfl (by decide) htrimmed hcomma⟩

end FormTemplate
