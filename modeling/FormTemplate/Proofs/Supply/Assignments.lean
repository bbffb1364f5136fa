import FormTemplate.Supply
import FormTemplate.Proofs.Text.Cutting
import FormTemplate.Proofs.Text.Trim

/-!
# Assignments — values in arguments

Arguments are read from left to right, each on its own, so what is supplied with more of them is what
was supplied before, and then the new ones over it.

* `Values.assignment?_append`, `Values.notMem_of_assignment?` — what one argument says, and the names
  that none can assign to;
* `Values.supplied_append`, `Values.supplied_concat_of_some` — arguments behind others.
-/

namespace FormTemplate
namespace Values

/-- What stands before the first equals sign is the name, whatever the text behind it has. -/
theorem assignment?_append {key text : String} (hkey : '=' ∉ key.toList) :
    assignment? (key ++ "=" ++ text) =
      if (Text.trim key.toList).isEmpty then none
      else some (String.ofList (Text.trim key.toList), .string text) := by
  have hchars : (key ++ "=" ++ text).toList = key.toList ++ '=' :: text.toList := by
    simp [String.toList_append]
  simp only [assignment?, hchars, Text.splitFirst_of_not_mem hkey, Option.bind_some,
    String.ofList_toList]

/-- No name that is assigned to has an equals sign, since the first one ends it. -/
theorem notMem_of_assignment? {argument name : String} {v : Value}
    (h : assignment? argument = some (name, v)) : '=' ∉ name.toList := by
  obtain ⟨⟨key, text⟩, hsplit, hentry⟩ := Option.bind_eq_some_iff.1 h
  obtain ⟨-, hkey⟩ := Text.splitFirst_char_eq_some_iff.1 hsplit
  by_cases hempty : (Text.trim key).isEmpty = true
  · simp [hempty] at hentry
  · have hname : String.ofList (Text.trim key) = name := by
      simp only [if_neg hempty, Option.some.injEq, Prod.mk.injEq] at hentry
      exact hentry.1
    rw [← hname, String.toList_ofList]
    intro hmem
    exact hkey ((Text.isInfix_trim key).subset hmem)

/-! ## Arguments behind others -/

theorem assignments_append (as bs : List String) :
    assignments (as ++ bs) =
      (assignments as).bind fun front => (assignments bs).map fun back => front ++ back := by
  simp only [assignments, List.mapM_append]
  rfl

/-- What is supplied with more arguments is what was supplied without them, and they win. -/
theorem supplied_append (fs : Files) (file : Option String) (as bs : List String) :
    supplied fs file (as ++ bs) =
      (supplied fs file as).bind fun values => (assignments bs).map values.override := by
  have hover : ∀ (values : Values) (front back : List (String × Value)),
      values.override (front ++ back) = Dictionary.override (values.override front) back :=
    fun values front back => List.foldl_append
  have harguments : ∀ values : Values,
      (assignments (as ++ bs)).map values.override =
        ((assignments as).map values.override).bind fun given =>
          (assignments bs).map given.override := by
    intro values
    rw [assignments_append]
    cases assignments as with
    | error fault => rfl
    | ok front =>
        cases assignments bs with
        | error fault => rfl
        | ok back => exact congrArg Except.ok (hover values front back)
  cases file with
  | none => exact harguments ∅
  | some path =>
      simp only [supplied, harguments]
      cases ofFile fs path <;> rfl

section Concat

variable {fs : Files} {file : Option String} {arguments : List String} {provided : Values}

/-- One more argument gives its name a value. -/
theorem supplied_concat_of_some (h : supplied fs file arguments = .ok provided)
    {argument name : String} {v : Value} (hargument : assignment? argument = some (name, v)) :
    supplied fs file (arguments ++ [argument]) = .ok (provided.insert name v) := by
  have hone : assignments [argument] = .ok [(name, v)] := by
    simp only [assignments, List.mapM_cons, List.mapM_nil, hargument]
    rfl
  rw [supplied_append, h, Except.bind, hone]
  rfl

theorem supplied_concat_of_none (h : supplied fs file arguments = .ok provided)
    {argument : String} (hargument : assignment? argument = none) :
    supplied fs file (arguments ++ [argument]) = .error (.badAssignment argument) := by
  have hone : assignments [argument] = .error (.badAssignment argument) := by
    simp only [assignments, List.mapM_cons, List.mapM_nil, hargument]
    rfl
  rw [supplied_append, h, Except.bind, hone]
  rfl

end Concat

end Values
end FormTemplate
