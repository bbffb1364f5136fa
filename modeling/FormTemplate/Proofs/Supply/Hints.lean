import FormTemplate.Proofs.Catalog.Collection
import FormTemplate.Proofs.Catalog.WellFormed
import FormTemplate.Proofs.Supply.Assignments

/-!
# Hints — what to do about a missing value

When collecting fails for want of a value, the message says which argument would supply it.  The name
in that argument was read from a placeholder, where everything but the separator can be part of it,
and is read again up to the first equals sign.  So the advice is good unless the name has one.

* `MissingRequired.assignment`, `MissingRequired.message_eq` — the argument of the message;
* `Catalog.trimmed_of_mem_parse` — the name loses nothing when it is trimmed again;
* `hint_helps_iff` — when the argument does what the message says.
-/

namespace FormTemplate

variable {d : Delimiters} {l : Lexicon} {content : String} {provided : Values}

/-! ## The argument of the message -/

/-- The argument that gives the missing variable a text. -/
def MissingRequired.assignment (e : MissingRequired) (text : String) : String :=
  e.name ++ "=" ++ text

/-- The message asks for this argument, with dots in the place of the text. -/
theorem MissingRequired.message_eq (e : MissingRequired) :
    e.message = "missing required variable: " ++ e.name ++ "\n  Hint: use --var " ++
      e.assignment "\"...\"" ++ " or remove --batch" := by
  have hend : "=" ++ ("\"...\"" ++ " or remove --batch") = "=\"...\" or remove --batch" := rfl
  unfold message assignment
  rw [← hend]
  simp only [String.append_assoc]

/-! ## Names in a catalog -/

theorem Catalog.trimmed_of_mem_parse {x : Variable} (hx : x ∈ (parse d l content).entries) :
    x.name ≠ "" ∧ Text.Trimmed x.name.toList := by
  have hcontains := (reads_parse d l content).contains_iff.2 ⟨x, hx, rfl⟩
  obtain ⟨hne, p, -, hname⟩ := contains_parse.1 hcontains
  refine ⟨hne, ?_⟩
  rw [← hname, Placeholder.name, String.toList_ofList]
  exact Expression.trimmed_name_parse d.separator_ne _

/-- The name of a failed collection is that of a variable of the template. -/
theorem Catalog.exists_unfilled_of_error {e : MissingRequired}
    (h : (parse d l content).collect provided = .error e) :
    ∃ x ∈ (parse d l content).entries, x.name = e.name ∧ x.Unfilled provided := by
  have hfirst := (reads_parse d l content).collect_eq_error_iff.1 h
  obtain ⟨x, hx, hname⟩ := Option.map_eq_some_iff.1 hfirst
  exact ⟨x, List.mem_of_find?_eq_some hx, hname, by simpa using List.find?_some hx⟩

/-! ## Following the hint -/

section Following

variable {e : MissingRequired}

/-- A name without an equals sign is read back from the argument. -/
theorem assignment?_hint (hmissing : (Catalog.parse d l content).collect provided = .error e)
    (hequals : '=' ∉ e.name.toList) (text : String) :
    Values.assignment? (e.assignment text) = some (e.name, .string text) := by
  obtain ⟨x, hx, hname, -⟩ := Catalog.exists_unfilled_of_error hmissing
  obtain ⟨hne, htrimmed⟩ := Catalog.trimmed_of_mem_parse hx
  rw [hname] at hne htrimmed
  rw [MissingRequired.assignment, Values.assignment?_append hequals, htrimmed.trim_eq]
  simp [hne]

/-- Once its variable has a value, the failure is another one, if there still is one. -/
theorem collect_insert_ne (v : Value) :
    (Catalog.parse d l content).collect (provided.insert e.name v) ≠ .error e := by
  intro hagain
  obtain ⟨x, -, hname, -, -, habsent⟩ := Catalog.exists_unfilled_of_error hagain
  apply habsent
  rw [hname]
  exact Std.ExtTreeMap.mem_insert_self

/-- A value for another name makes no difference to the failure. -/
theorem collect_insert_of_ne (hmissing : (Catalog.parse d l content).collect provided = .error e)
    {name : String} (hname : name ≠ e.name) (v : Value) :
    (Catalog.parse d l content).collect (provided.insert name v) = .error e := by
  have hreads := Catalog.reads_parse d l content
  have hmore : ∀ n : String, n ∈ provided → n ∈ provided.insert name v := fun n hn =>
    Std.ExtTreeMap.mem_insert.2 (.inr hn)
  obtain ⟨x, hfirst, hx⟩ := Option.map_eq_some_iff.1 (hreads.collect_eq_error_iff.1 hmissing)
  obtain ⟨hunfilled, before, after, hentries, hbefore⟩ := List.find?_eq_some_iff_append.1 hfirst
  obtain ⟨hrequired, hdefault, habsent⟩ := of_decide_eq_true hunfilled
  have hstill : x.Unfilled (provided.insert name v) := by
    refine ⟨hrequired, hdefault, ?_⟩
    rw [Std.ExtTreeMap.mem_insert, hx]
    rintro (hsame | hmem)
    · exact hname (by simpa using hsame)
    · exact habsent (hx ▸ hmem)
  have hfilled : ∀ y ∈ before, ¬ y.Unfilled (provided.insert name v) := by
    intro y hy hy'
    have hold := hbefore y hy
    simp [hy'.of_subset hmore] at hold
  rw [hreads.collect_eq_error hentries hfilled hstill, hx]

end Following

/-- When a required variable has no value, the message names an argument that would give it one: the
argument is printed there with three dots in quotes for the text.  Adding that argument to accepted
ones, with whatever text, is accepted too and cures the failure, if the variable's name has no equals
sign.  If it has one, the argument is about another name or about none, and does not help. -/
theorem hint_helps_iff {fs : Files} {file : Option String} {arguments : List String}
    {e : MissingRequired} (hsupplied : Values.supplied fs file arguments = .ok provided)
    (hmissing : (Catalog.parse d l content).collect provided = .error e) (text : String) :
    e.message = "missing required variable: " ++ e.name ++ "\n  Hint: use --var " ++
        e.assignment "\"...\"" ++ " or remove --batch" ∧
      ((∃ values, Values.supplied fs file (arguments ++ [e.assignment text]) = .ok values ∧
          (Catalog.parse d l content).collect values ≠ .error e) ↔
        '=' ∉ e.name.toList) := by
  refine ⟨e.message_eq, ?_⟩
  constructor
  · rintro ⟨values, hvalues, hcured⟩ hequals
    cases hargument : Values.assignment? (e.assignment text) with
    | none =>
        rw [Values.supplied_concat_of_none hsupplied hargument] at hvalues
        cases hvalues
    | some entry =>
        obtain ⟨name, v⟩ := entry
        have hname : name ≠ e.name := by
          rintro rfl
          exact Values.notMem_of_assignment? hargument hequals
        rw [Values.supplied_concat_of_some hsupplied hargument] at hvalues
        cases hvalues
        exact hcured (collect_insert_of_ne hmissing hname v)
  · intro hequals
    have hargument := assignment?_hint hmissing hequals text
    exact ⟨_, Values.supplied_concat_of_some hsupplied hargument, collect_insert_ne _⟩

/-- Blanks around the name, and an equals sign in the text. -/
theorem hint_helps_plain :
    let c := Catalog.parse .standard .empty "\x7b\x7b n :text:required\x7d\x7d"
    let e : MissingRequired := ⟨"n"⟩
    c.collect ∅ = .error e ∧
      e.message = "missing required variable: n\n  Hint: use --var n=\"...\" or remove --batch" ∧
      ∃ values, Values.supplied ⟨[], []⟩ none [e.assignment "a=b"] = .ok values ∧
        c.collect values ≠ .error e := by
  intro c e
  have hmissing : c.collect ∅ = .error e :=
    (Catalog.reads_parse _ _ _).collect_eq_error_iff.2 (by decide +kernel)
  have hsupplied : Values.supplied ⟨[], []⟩ none [] = .ok ∅ := rfl
  obtain ⟨hmessage, hhelps⟩ := hint_helps_iff hsupplied hmissing "a=b"
  exact ⟨hmissing, hmessage, hhelps.2 (by decide)⟩

/-- With an equals sign in the name the value is given to what stands before the sign. -/
theorem hint_fails_with_equals :
    let c := Catalog.parse .standard .empty "\x7b\x7ba=b:text:required\x7d\x7d"
    let e : MissingRequired := ⟨"a=b"⟩
    let values := (∅ : Values).insert "a" (.string "b=x")
    Values.supplied ⟨[], []⟩ none [] = .ok ∅ ∧ c.collect ∅ = .error e ∧
      e.assignment "x" = "a=b=x" ∧ Values.supplied ⟨[], []⟩ none ["a=b=x"] = .ok values ∧
      c.collect values = .error e := by
  intro c e values
  have hmissing : ∀ provided : Values,
      (c.firstUnfilled? provided).map Variable.name = some e.name → c.collect provided = .error e :=
    fun provided => (Catalog.reads_parse _ _ _).collect_eq_error_iff.2
  exact ⟨rfl, hmissing ∅ (by decide +kernel), by decide, rfl, hmissing values (by decide +kernel)⟩

end FormTemplate
