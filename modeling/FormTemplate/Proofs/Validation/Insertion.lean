import FormTemplate.Proofs.Decimal.Layout
import FormTemplate.Proofs.Rendering.Splicing
import FormTemplate.Proofs.Validation.Checks
import FormTemplate.Proofs.Validation.Reports

/-!
# Insertion — what is validated is what is inserted

A value is checked once for its variable, and its text is inserted at every placeholder of that name.

* `Value.readReal?_text` — the number that a value is checked as is read from the text it is inserted
  as, with the blanks at its ends trimmed;
* `Variable.Satisfied` — what a variable asks of an inserted text;
* `rendered_satisfied` — with values that are valid, all placeholders are filled with such texts.
-/

namespace FormTemplate

variable {d : Delimiters} {l : Lexicon} {values : Values}

/-! ## The number of a text -/

/-- The number that a value is checked as stands in the text that it is inserted as. -/
theorem Value.readReal?_text {v : Value} {y : Binary64}
    (hv : ∀ n, v = .number n → n.WellFormed) (h : v.number? = some y) :
    Text.readReal? (Text.trim v.text) = some y := by
  cases v with
  | number n =>
      obtain ⟨hread, htrimmed⟩ := Number.readReal?_number (hv n rfl)
      have htext : Value.text (.number n) = Json.number n := by
        rw [Value.text]
      rw [htext, htrimmed.trim_eq, hread]
      exact h
  | string s =>
      have htext : Value.text (.string s) = s.toList := by
        rw [Value.text]
      rw [htext]
      exact h
  | null => cases h
  | bool b => cases h
  | array items => cases h
  | object fields => cases h

/-! ## Inserted texts -/

/-- What a variable asks of a text that is inserted for it. -/
structure Variable.Satisfied (x : Variable) (t : List Char) : Prop where
  /-- A pattern that is usable finds a match in it. -/
  pattern : ∀ c, x.validation = some c → ∀ source, c.pattern = some source →
    ∀ p, Pattern.compile? source = some p → p.finds t = true
  /-- For a number field, it is the text of a finite number within the bounds. -/
  number : x.type = .number → ∃ y, Text.readReal? (Text.trim t) = some y ∧
    ∀ c, x.validation = some c →
      (∀ min, c.min = some min → y.lt (Binary64.ofInt min) = false) ∧
        ∀ max, c.max = some max → (Binary64.ofInt max).lt y = false

/-- A value that passes the check satisfies its variable by its text. -/
theorem Variable.satisfied_of_check {x : Variable} {v : Value}
    (hv : ∀ n, v = .number n → n.WellFormed) (hpresent : v.isVacant = false)
    (hcheck : x.check v = none) : x.Satisfied v.text := by
  obtain ⟨hnumber, hconstraints⟩ := (x.check_eq_none_iff hpresent).1 hcheck
  refine ⟨?_, ?_⟩
  · intro c hc
    obtain ⟨-, -, hpattern⟩ := Constraints.check_eq_none_iff.1 (hconstraints c hc)
    exact Constraints.checkPattern_eq_none_iff.1 hpattern
  · intro htype
    obtain ⟨y, hy⟩ := hnumber htype
    refine ⟨y, Value.readReal?_text hv hy, ?_⟩
    intro c hc
    obtain ⟨hmin, hmax, -⟩ := Constraints.check_eq_none_iff.1 (hconstraints c hc)
    exact ⟨fun min hm => Constraints.checkMin_eq_none_iff.1 hmin min y hm hy,
      fun max hm => Constraints.checkMax_eq_none_iff.1 hmax max y hm hy⟩

theorem Catalog.valid_validate_iff {c : Catalog} :
    (c.validate values).valid = true ↔
      ∀ x ∈ c.entries, x.check (values[x.name]?.getD .null) = none := by
  simp [Catalog.validate_eq, Variable.rejection?, List.filterMap_eq_nil_iff]

/-- When the values are valid for a template, the range of every placeholder whose name has a value is
filled with a text that satisfies the variable of that name, unless the value is vacant: the pattern
has a match in the text, and for a number field it is the text of a number within the bounds. -/
theorem rendered_satisfied {content : String}
    (hvalid : ((Catalog.parse d l content).validate values).valid = true)
    (hnumbers : ∀ (n : String) (m : Number), values[n]? = some (.number m) → m.WellFormed) :
    render d content values =
        splice content (Placeholder.rendered d values) 0 (placeholders d content) ∧
      ∀ p ∈ placeholders d content, p.name d ≠ "" → ∀ v, values[p.name d]? = some v →
        ∃ x, (Catalog.parse d l content).get? (p.name d) = some x ∧
          (v.isVacant = false → x.Satisfied (p.rendered d values).toList) := by
  refine ⟨render_eq_splice_rendered d values content, ?_⟩
  intro p hp hname v hv
  have hreads := Catalog.reads_parse d l content
  have hcontains : (Catalog.parse d l content).contains (p.name d) = true :=
    Catalog.contains_parse.2 ⟨hname, p, hp, rfl⟩
  obtain ⟨x, hx, hxname⟩ := hreads.contains_iff.1 hcontains
  refine ⟨x, hreads.get?_eq_some_iff.2 ⟨hx, hxname⟩, ?_⟩
  intro hpresent
  -- the value was checked for the variable that declares its name
  have hcheck : x.check v = none := by
    have h := Catalog.valid_validate_iff.1 hvalid x hx
    rwa [hxname, hv, Option.getD_some] at h
  rw [p.rendered_of_value hname hv, String.toList_ofList]
  exact x.satisfied_of_check (fun n hn => hnumbers (p.name d) n (hn ▸ hv)) hpresent hcheck

/-- The second placeholder of a name has no rules of its own, and is filled like the first one. -/
theorem rendered_satisfied_twice :
    let content := "\x7b\x7bn:number:min=1:pattern=5$\x7d\x7d \x7b\x7bn\x7d\x7d"
    let values : Values :=
      (∅ : Values).insert "n" (.number (.real ⟨false, 6720215068966912, -46⟩))
    (((Catalog.parse .standard .empty content).validate values).valid = true ∧
        ∀ (n : String) (m : Number), values[n]? = some (.number m) → m.WellFormed) ∧
      ∀ p ∈ placeholders .standard content,
        ∃ x, (Catalog.parse .standard .empty content).get? "n" = some x ∧
          x.Satisfied "95.5".toList := by
  intro content values
  have hvalid : ((Catalog.parse .standard .empty content).validate values).valid = true := by
    decide +kernel
  have hnumbers : ∀ (n : String) (m : Number), values[n]? = some (.number m) → m.WellFormed := by
    intro n m hm
    rw [Std.ExtTreeMap.getElem?_insert] at hm
    split at hm
    · cases hm
      exact ⟨by decide, by decide, by decide, .inl (by decide)⟩
    · simp at hm
  have hplaceholders : ∀ p ∈ placeholders .standard content,
      p.name .standard = "n" ∧ p.rendered .standard values = "95.5" := by
    decide +kernel
  refine ⟨⟨hvalid, hnumbers⟩, ?_⟩
  intro p hp
  obtain ⟨hname, hrendered⟩ := hplaceholders p hp
  have hv : values[p.name .standard]? =
      some (.number (.real ⟨false, 6720215068966912, -46⟩)) := by
    rw [hname, Std.ExtTreeMap.getElem?_insert_self]
  obtain ⟨x, hx, hsatisfied⟩ := (rendered_satisfied hvalid hnumbers).2 p hp (by simp [hname]) _ hv
  rw [hname] at hx
  rw [hrendered] at hsatisfied
  exact ⟨x, hx, hsatisfied rfl⟩

end FormTemplate
