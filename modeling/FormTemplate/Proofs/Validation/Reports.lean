import FormTemplate.Proofs.Catalog.Index
import FormTemplate.Proofs.Text.ByteOrder
import FormTemplate.Report

/-!
# Reports — what a report says of a value set

A report is built in two passes, over the variables of the catalog and over the names of the values.
Said at once, it has the rejections of the catalog's variables and the names that are not in it.

* `Variable.rejection?` — the error of one variable, with null for a value that is not there;
* `foldl_checkInto`, `foldl_addWarning` — what the two passes add to a report;
* `Catalog.validate_eq` — the report as a whole;
* `Catalog.messageFor_validate` — each variable finds its own message in it;
* `validate_eq_rejections` — the same for the catalog of a template, with what follows for value sets
  that differ in one name, in vacant values or outside of the catalog.
-/

namespace FormTemplate

variable {d : Delimiters} {l : Lexicon} {values values' : Values}

/-! ## Values that are not there -/

namespace Value

theorem isVacant_iff {v : Value} :
    v.isVacant = true ↔
      v = .null ∨ (∃ s, v = .string s ∧ Text.blankString s = true) ∨ v = .array [] := by
  cases v <;> simp [isVacant]

end Value

namespace Variable

/-- Vacant values are all checked alike. -/
theorem check_of_isVacant {v : Value} (x : Variable) (h : v.isVacant = true) :
    x.check v = x.check .null := by
  have hnull : Value.isVacant .null = true := rfl
  simp only [check, h, hnull, if_true]

/-- The error for a variable, if the value supplied for it is rejected. -/
def rejection? (values : Values) (x : Variable) : Option FieldError :=
  (x.check (values[x.name]?.getD .null)).map (FieldError.mk x.name)

theorem field_of_rejection? {x : Variable} {e : FieldError} (h : x.rejection? values = some e) :
    e.field = x.name := by
  obtain ⟨error, -, rfl⟩ := Option.map_eq_some_iff.1 h
  rfl

theorem rejection?_congr {x : Variable} (h : values[x.name]? = values'[x.name]?) :
    x.rejection? values = x.rejection? values' := by
  rw [rejection?, rejection?, h]

/-- Leaving a vacant value out makes no difference. -/
theorem rejection?_of_vacant_absent {x : Variable}
    (h : values'[x.name]? = values[x.name]? ∨
      values'[x.name]? = none ∧ ∃ v, values[x.name]? = some v ∧ v.isVacant = true) :
    x.rejection? values' = x.rejection? values := by
  rcases h with h | ⟨habsent, v, hv, hvacant⟩
  · exact rejection?_congr h
  · simp only [rejection?, habsent, hv, Option.getD_none, Option.getD_some,
      x.check_of_isVacant hvacant]

end Variable

/-! ## The two passes -/

namespace Catalog

theorem checkInto_eq (values : Values) (r : Report) (x : Variable) :
    checkInto values r x =
      { r with
        errors := r.errors ++ (x.rejection? values).toList
        valid := r.valid && (x.rejection? values).isNone } := by
  unfold checkInto Variable.rejection?
  cases x.check (values[x.name]?.getD .null) with
  | none => simp
  | some e => simp [Report.addError]

/-- The first pass adds the rejections of the variables in their order, and the report stays valid as
long as there is none. -/
theorem foldl_checkInto (values : Values) (xs : List Variable) (r : Report) :
    xs.foldl (checkInto values) r =
      { r with
        errors := r.errors ++ xs.filterMap (Variable.rejection? values)
        valid := r.valid && (xs.filterMap (Variable.rejection? values)).isEmpty } := by
  induction xs generalizing r with
  | nil => simp
  | cons x xs ih =>
      rw [List.foldl_cons, ih, checkInto_eq]
      cases hx : x.rejection? values with
      | none => simp [hx]
      | some e => simp [hx]

/-- The second pass touches nothing but the warnings. -/
theorem foldl_addWarning (names : List String) (r : Report) :
    names.foldl (fun r name => r.addWarning (unknownWarning name)) r =
      { r with warnings := r.warnings ++ names.map unknownWarning } := by
  induction names generalizing r with
  | nil => simp
  | cons name names ih => rw [List.foldl_cons, ih]; simp [Report.addWarning]

/-- The names of values that belong to no variable of the catalog, in their order. -/
def unknownNames (c : Catalog) (values : Values) : List String :=
  values.keys.filter fun name => !c.contains name

theorem validate_eq (c : Catalog) (values : Values) :
    c.validate values =
      { valid := (c.entries.filterMap (Variable.rejection? values)).isEmpty
        errors := c.entries.filterMap (Variable.rejection? values)
        warnings := (c.unknownNames values).map unknownWarning } := by
  rw [validate, foldl_checkInto, foldl_addWarning]
  simp [Report.success, unknownNames]

theorem mem_unknownNames {c : Catalog} {n : String} :
    n ∈ c.unknownNames values ↔ n ∈ values ∧ c.contains n = false := by
  simp [unknownNames, Std.ExtTreeMap.mem_keys]

theorem pairwise_unknownNames (c : Catalog) (values : Values) :
    (c.unknownNames values).Pairwise fun m n => Text.byteList m < Text.byteList n := by
  have hkeys : values.keys.Pairwise fun m n => Text.byteList m < Text.byteList n := by
    refine Std.ExtTreeMap.ordered_keys.imp ?_
    intro m n hmn
    exact Text.byteList_lt_iff.2 (compare_lt_iff_lt.1 hmn)
  exact hkeys.filter _

/-! ## Errors by name -/

theorem errors_validate_congr {c : Catalog}
    (h : ∀ x ∈ c.entries, x.rejection? values = x.rejection? values') :
    (c.validate values).errors = (c.validate values').errors ∧
      (c.validate values).valid = (c.validate values').valid := by
  have herrors : c.entries.filterMap (Variable.rejection? values) =
      c.entries.filterMap (Variable.rejection? values') := List.filterMap_congr h
  simp only [validate_eq, herrors, and_self]

/-- The errors of one name are the rejections of the variables of that name. -/
theorem filter_field_filterMap_rejection? (xs : List Variable) (n : String) :
    (xs.filterMap (Variable.rejection? values)).filter (fun e => e.field == n) =
      (xs.filter fun x => x.name == n).filterMap (Variable.rejection? values) := by
  induction xs with
  | nil => rfl
  | cons x xs ih =>
      by_cases hname : x.name = n
      · cases hx : x.rejection? values with
        | none => simp [hx, hname, ih]
        | some e => simp [hx, Variable.field_of_rejection? hx, hname, ih]
      · cases hx : x.rejection? values with
        | none => simp [hx, hname, ih]
        | some e => simp [hx, Variable.field_of_rejection? hx, hname, ih]

theorem map_field_sublist (values : Values) (xs : List Variable) :
    ((xs.filterMap (Variable.rejection? values)).map FieldError.field).Sublist
      (xs.map Variable.name) := by
  induction xs with
  | nil => exact List.Sublist.refl []
  | cons x xs ih =>
      cases hx : x.rejection? values with
      | none => simpa [List.filterMap_cons, hx] using ih.cons x.name
      | some e =>
          simpa [List.filterMap_cons, hx, Variable.field_of_rejection? hx] using
            ih.cons_cons x.name

namespace Reads

variable {c : Catalog} {es : List Expression}

theorem messageFor_validate (h : Reads l es c) (values : Values) (n : String) :
    (c.validate values).messageFor n =
      (c.get? n).bind fun x => (x.check (values[n]?.getD .null)).map CheckError.message := by
  -- the first error of a name is sought among those of its variable, which has one at most
  rw [Report.messageFor, ← List.head?_filter, validate_eq, filter_field_filterMap_rejection?,
    h.filter_name_eq]
  cases hget : c.get? n with
  | none => rfl
  | some x =>
      have hname : x.name = n := (h.get?_eq_some_iff.1 hget).2
      cases hx : x.check (values[n]?.getD .null) with
      | none => simp [Variable.rejection?, hname, hx]
      | some e => simp [Variable.rejection?, hname, hx]

end Reads
end Catalog

/-! ## The report for a template -/

/-- The report for a value set has the rejections of the template's variables in their order, at most
one for a name, and is valid if there are none; each variable finds the message of its own check; and
there is a warning for every other name with a value, in the order of bytes.

Hence only the values of the template's variables matter for errors and validity, a changed value
changes the errors of its own name only, and a null, a blank string or an empty array might as well
not be there. -/
theorem validate_eq_rejections (d : Delimiters) (l : Lexicon) (content : String)
    (values : Values) :
    let c := Catalog.parse d l content
    let r := c.validate values
    r.errors = c.entries.filterMap (Variable.rejection? values) ∧
      (r.errors.map FieldError.field).Nodup ∧
      (r.valid = true ↔ r.errors = []) ∧
      (∀ n, r.messageFor n =
        (c.get? n).bind fun x => (x.check (values[n]?.getD .null)).map CheckError.message) ∧
      (∃ unknown : List String, r.warnings = unknown.map unknownWarning ∧
        unknown.Pairwise (fun m n => Text.byteList m < Text.byteList n) ∧
        ∀ n, n ∈ unknown ↔ n ∈ values ∧ c.contains n = false) ∧
      (∀ values' : Values, (∀ n, c.contains n = true → values[n]? = values'[n]?) →
        (c.validate values').errors = r.errors ∧ (c.validate values').valid = r.valid) ∧
      (∀ (values' : Values) (n : String), (∀ m, m ≠ n → values[m]? = values'[m]?) →
        ∀ m, m ≠ n →
          (c.validate values').errors.filter (fun e => e.field == m) =
            r.errors.filter fun e => e.field == m) ∧
      (∀ values' : Values,
        (∀ n : String, values'[n]? = values[n]? ∨ values'[n]? = none ∧
          ∃ v : Value, values[n]? = some v ∧
            (v = .null ∨ (∃ s, v = .string s ∧ Text.blankString s = true) ∨ v = .array [])) →
        (c.validate values').errors = r.errors ∧ (c.validate values').valid = r.valid) := by
  intro c r
  have hreads := Catalog.reads_parse d l content
  have hr : r = _ := c.validate_eq values
  refine ⟨by rw [hr], ?_, by simp [hr], hreads.messageFor_validate values,
    ⟨c.unknownNames values, by rw [hr], c.pairwise_unknownNames values,
      fun n => Catalog.mem_unknownNames⟩, ?_, ?_, ?_⟩
  · -- the names of the errors are some of the names of the catalog
    rw [hr]
    exact hreads.nodup_names.sublist (Catalog.map_field_sublist values c.entries)
  · intro values' h
    refine Catalog.errors_validate_congr ?_
    intro x hx
    exact Variable.rejection?_congr (h x.name (hreads.contains_iff.2 ⟨x, hx, rfl⟩)).symm
  · -- a name's errors come from the variables of that name, and these see the same value
    intro values' n h m hm
    rw [hr, c.validate_eq, Catalog.filter_field_filterMap_rejection?,
      Catalog.filter_field_filterMap_rejection?]
    refine List.filterMap_congr ?_
    intro x hx
    have hname : x.name = m := by simpa using (List.mem_filter.1 hx).2
    exact Variable.rejection?_congr (h x.name (hname ▸ hm)).symm
  · intro values' h
    refine Catalog.errors_validate_congr ?_
    intro x hx
    refine Variable.rejection?_of_vacant_absent ((h x.name).imp_right ?_)
    rintro ⟨habsent, v, hv, hvacant⟩
    exact ⟨habsent, v, hv, Value.isVacant_iff.2 hvacant⟩

end FormTemplate
