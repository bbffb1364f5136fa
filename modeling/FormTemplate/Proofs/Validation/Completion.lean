import FormTemplate.Proofs.Catalog.Collection
import FormTemplate.Proofs.Catalog.WellFormed
import FormTemplate.Proofs.Validation.Checks
import FormTemplate.Proofs.Validation.Reports

/-!
# Completion — what validation still misses after collecting

Collecting fails when a required variable has neither a value nor a default.  When it succeeds, the
values are validated, and validation has its own notion of a value that is not there: a value may be
vacant.  The two meet in the defaults, which come out of rule lists and are never vacant.

* `Catalog.Reads.isVacant_default` — defaults of a catalog are not vacant;
* `Catalog.Reads.completes_of_collect` — what a collection that succeeds has read;
* `Catalog.Reads.required_mem_errors_iff` — which values a report misses;
* `required_of_collect` — after collecting, these are provided values and nothing else.
-/

namespace FormTemplate

variable {d : Delimiters} {l : Lexicon} {content : String} {provided values : Values}

namespace Catalog.Reads

variable {c : Catalog} {es : List Expression} {x : Variable} {r : Collected}

/-- A default is read from the text of a rule, which is never blank. -/
theorem isVacant_default (h : Reads l es c) (hx : x ∈ c.entries) {v : Value}
    (hv : x.default = some v) : v.isVacant = false :=
  ((h.forall_entries (Variable.ruled_declare l) x hx).default_of v hv).isVacant_eq_false

/-! ## Collections that succeed -/

theorem completes_of_collect (h : Reads l es c) (hr : c.collect provided = .ok r) :
    (∀ y ∈ c.entries, ¬ y.Unfilled provided) ∧ Collected.Completes provided c.entries r := by
  -- an unfilled variable would have ended the collection
  by_cases hfilled : ∀ y ∈ c.entries, ¬ y.Unfilled provided
  · obtain ⟨s, hs, hcompletes⟩ := h.exists_collect hfilled
    rw [hr] at hs
    cases hs
    exact ⟨hfilled, hcompletes⟩
  · obtain ⟨before, y, after, hentries, hbefore, hunfilled⟩ := exists_first_unfilled hfilled
    rw [h.collect_eq_error hentries hbefore hunfilled] at hr
    cases hr

/-- A variable without a provided value has its default, and without a default it is optional. -/
theorem getElem?_of_absent (h : Reads l es c) (hr : c.collect provided = .ok r)
    (hx : x ∈ c.entries) (habsent : x.name ∉ provided) :
    r.values[x.name]? = x.default ∧ (x.default = none → x.required = false) := by
  obtain ⟨hfilled, hcompletes⟩ := h.completes_of_collect hr
  have hget : c.get? x.name = some x := h.get?_eq_some_iff.2 ⟨hx, rfl⟩
  constructor
  · rw [hcompletes.values, h.find?_name_eq, hget, Option.bind_some,
      Std.ExtTreeMap.getElem?_eq_none habsent, Option.none_or]
  · intro hdefault
    by_contra hrequired
    exact hfilled x hx ⟨Bool.not_eq_false _ ▸ hrequired, hdefault, habsent⟩

theorem getElem?_of_provided (h : Reads l es c) (hr : c.collect provided = .ok r) {n : String}
    {v : Value} (hv : provided[n]? = some v) : r.values[n]? = some v := by
  rw [(h.completes_of_collect hr).2.values, hv, Option.some_or]

/-! ## Missed values -/

/-- A report misses the vacant values of required variables. -/
theorem required_mem_errors_iff (h : Reads l es c) {n label : String} :
    (⟨n, .required label⟩ : FieldError) ∈ (c.validate values).errors ↔
      ∃ x, c.get? n = some x ∧ (values[n]?.getD .null).isVacant = true ∧
        x.required = true ∧ x.label = label := by
  rw [validate_eq, List.mem_filterMap]
  constructor
  · rintro ⟨x, hx, hrejection⟩
    obtain ⟨error, hcheck, herror⟩ := Option.map_eq_some_iff.1 hrejection
    cases herror
    exact ⟨x, h.get?_eq_some_iff.2 ⟨hx, rfl⟩, Variable.check_eq_required_iff.1 hcheck⟩
  · rintro ⟨x, hget, hmissed⟩
    obtain ⟨hx, rfl⟩ := h.get?_eq_some_iff.1 hget
    refine ⟨x, hx, ?_⟩
    rw [Variable.rejection?, Variable.check_eq_required_iff.2 hmissed]
    rfl

/-- Of a variable that nothing was provided for, no value is missed after collecting. -/
theorem not_required_of_absent (h : Reads l es c) (hr : c.collect provided = .ok r)
    (hx : x ∈ c.entries) (habsent : x.name ∉ provided) :
    x.required = false ∨
      ∃ v, x.default = some v ∧ r.values[x.name]? = some v ∧ v.isVacant = false := by
  obtain ⟨hvalue, hoptional⟩ := h.getElem?_of_absent hr hx habsent
  cases hdefault : x.default with
  | none => exact .inl (hoptional hdefault)
  | some v => exact .inr ⟨v, rfl, hvalue.trans hdefault, h.isVacant_default hx hdefault⟩

end Catalog.Reads

/-- When collecting succeeds, a variable that nothing was provided for is optional or has taken a
default that is not vacant, so the report for the collected values does not miss its value.  What
the report does miss are the vacant ones among the values that were provided for required variables. -/
theorem required_of_collect {r : Collected}
    (h : (Catalog.parse d l content).collect provided = .ok r) :
    let c := Catalog.parse d l content
    (∀ x ∈ c.entries, x.name ∉ provided →
        (∀ e ∈ (c.validate r.values).errors, e.field = x.name →
          ∀ label, e.error ≠ .required label) ∧
        (x.required = false ∨
          ∃ v, x.default = some v ∧ r.values[x.name]? = some v ∧ v.isVacant = false)) ∧
      ∀ n label : String, (⟨n, .required label⟩ : FieldError) ∈ (c.validate r.values).errors ↔
        ∃ x v, c.get? n = some x ∧ x.required = true ∧ x.label = label ∧
          provided[n]? = some v ∧ v.isVacant = true := by
  intro c
  have hreads := Catalog.reads_parse d l content
  have hmissed : ∀ n label : String,
      (⟨n, .required label⟩ : FieldError) ∈ (c.validate r.values).errors ↔
        ∃ x v, c.get? n = some x ∧ x.required = true ∧ x.label = label ∧
          provided[n]? = some v ∧ v.isVacant = true := by
    intro n label
    rw [hreads.required_mem_errors_iff]
    constructor
    · rintro ⟨x, hget, hvacant, hrequired, hlabel⟩
      obtain ⟨hx, rfl⟩ := hreads.get?_eq_some_iff.1 hget
      cases hprovided : provided[x.name]? with
      | some v =>
          rw [hreads.getElem?_of_provided h hprovided] at hvacant
          exact ⟨x, v, hget, hrequired, hlabel, rfl, hvacant⟩
      | none =>
          -- nothing was provided, so there is a default, or the variable is not required
          have habsent : x.name ∉ provided := by
            rw [Std.ExtTreeMap.mem_iff_isSome_getElem?, hprovided]
            simp
          rcases hreads.not_required_of_absent h hx habsent with hoptional | ⟨v, -, hv, hpresent⟩
          · rw [hoptional] at hrequired
            cases hrequired
          · rw [hv, Option.getD_some, hpresent] at hvacant
            cases hvacant
    · -- provided values are kept, vacant ones too
      rintro ⟨x, v, hget, hrequired, hlabel, hprovided, hvacant⟩
      refine ⟨x, hget, ?_, hrequired, hlabel⟩
      rw [hreads.getElem?_of_provided h hprovided]
      exact hvacant
  refine ⟨?_, hmissed⟩
  intro x hx habsent
  refine ⟨?_, hreads.not_required_of_absent h hx habsent⟩
  rintro ⟨field, error⟩ he rfl label rfl
  obtain ⟨-, v, -, -, -, hprovided, -⟩ := (hmissed x.name label).1 he
  exact habsent (Dictionary.mem_iff_exists_getElem?.2 ⟨v, hprovided⟩)

/-- A blank provided value is missed, a name without one is not. -/
theorem required_of_collect_blank :
    let content := "\x7b\x7ba:text:required,default=x\x7d\x7d \x7b\x7bb:text:required\x7d\x7d"
    let provided : Values := (∅ : Values).insert "b" (.string " ")
    let c := Catalog.parse .standard .empty content
    ∃ r, c.collect provided = .ok r ∧
      (∃ v, r.values["a"]? = some v ∧ v.isVacant = false) ∧
      (∀ label, (⟨"a", .required label⟩ : FieldError) ∉ (c.validate r.values).errors) ∧
      ∃ label, (⟨"b", .required label⟩ : FieldError) ∈ (c.validate r.values).errors := by
  intro content provided c
  have hok : (c.collect provided).toBool = true := by decide +kernel
  cases hr : c.collect provided with
  | error e =>
      rw [hr] at hok
      cases hok
  | ok r =>
      obtain ⟨habsent, hmissed⟩ := required_of_collect hr
      obtain ⟨x, hx, hxname, hxrequired⟩ :
          ∃ x ∈ c.entries, x.name = "a" ∧ x.required = true := by
        decide +kernel
      obtain ⟨y, hy, hyname, hyrequired⟩ : ∃ y ∈ c.entries, y.name = "b" ∧ y.required = true := by
        decide +kernel
      have hget : c.get? "b" = some y :=
        (Catalog.reads_parse .standard .empty content).get?_eq_some_iff.2 ⟨hy, hyname⟩
      have hb : provided["b"]? = some (.string " ") := Std.ExtTreeMap.getElem?_insert_self
      have ha : "a" ∉ provided := by decide +kernel
      rw [← hxname] at ha
      obtain ⟨hnone, hfilled⟩ := habsent x hx ha
      rw [hxname] at hnone hfilled
      refine ⟨r, rfl, ?_, fun label hmem => hnone _ hmem rfl label rfl,
        y.label, (hmissed "b" y.label).2 ⟨y, _, hget, hyrequired, rfl, hb, by decide +kernel⟩⟩
      rcases hfilled with hoptional | ⟨v, -, hv, hpresent⟩
      · rw [hxrequired] at hoptional
        cases hoptional
      · exact ⟨v, hv, hpresent⟩

end FormTemplate
