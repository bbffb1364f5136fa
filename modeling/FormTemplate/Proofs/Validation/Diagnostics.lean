import Mathlib.Data.List.Nodup
import FormTemplate.Diagnostic
import FormTemplate.Proofs.Catalog.Index
import FormTemplate.Proofs.Validation.Checks

/-!
# Diagnostics — what is reported of a template, and what its checks do

Whether a pattern is usable is decided twice: when a template is looked through for rules that cannot
work, and when a value is checked.

* `Diagnostic.Precedes` — the order in which diagnostics are listed, no two of a kind for a variable;
* `Variable.mem_diagnostics_iff`, `Catalog.Reads.mem_diagnostics_iff` — what is reported of a
  variable, and that a template's list has nothing else under its name;
* `Catalog.Reads.pairwise_diagnostics` — the list is in that order;
* `Variable.check_of_compile_error`, `Variable.check_of_compile` — what a pattern adds to a check;
* `pattern_checked_unless_reported` — a pattern is either reported or enforced.
-/

namespace FormTemplate

variable {l : Lexicon}

namespace Diagnostic

/-- The variable that a diagnostic is about. -/
def name : Diagnostic → String
  | invalidPattern name _ _ => name
  | invertedBounds name _ _ => name

/-- A diagnostic comes before those of later variables, and one about the pattern of a variable before
one about its bounds. -/
inductive Precedes (names : List String) : Diagnostic → Diagnostic → Prop where
  | earlier {g h : Diagnostic} :
      names.idxOf g.name < names.idxOf h.name → Precedes names g h
  | pattern_first {name pattern reason : String} {min max : Int} :
      Precedes names (.invalidPattern name pattern reason) (.invertedBounds name min max)

end Diagnostic

/-! ## Diagnostics of one variable -/

namespace Constraints

variable {c : Constraints} {name : String} {g : Diagnostic}

theorem lintPattern_eq_some_iff :
    c.lintPattern name = some g ↔
      ∃ source fault, c.pattern = some source ∧ Pattern.compile source = .error fault ∧
        g = .invalidPattern name source fault.message := by
  unfold lintPattern
  cases c.pattern with
  | none => simp
  | some source =>
      cases hcompile : Pattern.compile source with
      | ok p => simp [hcompile]
      | error fault => simp [hcompile, eq_comm]

theorem lintBounds_eq_some_iff :
    c.lintBounds name = some g ↔
      ∃ min max, c.min = some min ∧ c.max = some max ∧ max < min ∧
        g = .invertedBounds name min max := by
  unfold lintBounds
  cases c.min with
  | none => simp
  | some min =>
      cases c.max with
      | none => simp
      | some max => simp [eq_comm]

end Constraints

namespace Variable

variable {x : Variable} {g : Diagnostic}

theorem mem_diagnostics_iff :
    g ∈ x.diagnostics ↔
      ∃ c, x.validation = some c ∧
        (c.lintPattern x.name = some g ∨ c.lintBounds x.name = some g) := by
  unfold diagnostics
  cases x.validation with
  | none => simp
  | some c => simp

theorem invalidPattern_mem_iff {name pattern reason : String} :
    .invalidPattern name pattern reason ∈ x.diagnostics ↔
      name = x.name ∧ ∃ c fault, x.validation = some c ∧ c.pattern = some pattern ∧
        Pattern.compile pattern = .error fault ∧ reason = fault.message := by
  simp only [mem_diagnostics_iff, Constraints.lintPattern_eq_some_iff,
    Constraints.lintBounds_eq_some_iff]
  constructor
  · rintro ⟨c, hc, ⟨source, fault, hpattern, hcompile, heq⟩ | ⟨min, max, -, -, -, heq⟩⟩
    · cases heq
      exact ⟨rfl, c, fault, hc, hpattern, hcompile, rfl⟩
    · cases heq
  · rintro ⟨rfl, c, fault, hc, hpattern, hcompile, rfl⟩
    exact ⟨c, hc, .inl ⟨pattern, fault, hpattern, hcompile, rfl⟩⟩

theorem invertedBounds_mem_iff {name : String} {min max : Int} :
    .invertedBounds name min max ∈ x.diagnostics ↔
      name = x.name ∧ ∃ c, x.validation = some c ∧ c.min = some min ∧ c.max = some max ∧
        max < min := by
  simp only [mem_diagnostics_iff, Constraints.lintPattern_eq_some_iff,
    Constraints.lintBounds_eq_some_iff]
  constructor
  · rintro ⟨c, hc, ⟨source, fault, -, -, heq⟩ | ⟨lo, hi, hmin, hmax, hlt, heq⟩⟩
    · cases heq
    · cases heq
      exact ⟨rfl, c, hc, hmin, hmax, hlt⟩
  · rintro ⟨rfl, c, hc, hmin, hmax, hlt⟩
    exact ⟨c, hc, .inr ⟨min, max, hmin, hmax, hlt, rfl⟩⟩

theorem name_of_mem_diagnostics (h : g ∈ x.diagnostics) : g.name = x.name := by
  cases g with
  | invalidPattern name pattern reason => exact (invalidPattern_mem_iff.1 h).1
  | invertedBounds name min max => exact (invertedBounds_mem_iff.1 h).1

/-- There are at most two, and the first of two is about the pattern. -/
theorem pairwise_diagnostics (names : List String) (x : Variable) :
    x.diagnostics.Pairwise (Diagnostic.Precedes names) := by
  unfold diagnostics
  cases x.validation with
  | none => exact List.Pairwise.nil
  | some c =>
      refine List.pairwise_append.2 ⟨?_, ?_, ?_⟩
      · cases c.lintPattern x.name <;> simp
      · cases c.lintBounds x.name <;> simp
      · intro g hg h hh
        obtain ⟨source, fault, -, -, rfl⟩ :=
          Constraints.lintPattern_eq_some_iff.1 (Option.mem_toList.1 hg)
        obtain ⟨min, max, -, -, -, rfl⟩ :=
          Constraints.lintBounds_eq_some_iff.1 (Option.mem_toList.1 hh)
        exact .pattern_first

end Variable

/-! ## Diagnostics of a template -/

namespace Catalog

theorem mem_diagnostics_iff {c : Catalog} {g : Diagnostic} :
    g ∈ c.diagnostics ↔ ∃ x ∈ c.entries, g ∈ x.diagnostics :=
  List.mem_flatMap

namespace Reads

variable {c : Catalog} {es : List Expression} {x y : Variable} {g : Diagnostic}

theorem eq_of_name (h : Reads l es c) (hx : x ∈ c.entries) (hy : y ∈ c.entries)
    (hname : x.name = y.name) : x = y := by
  have hget : c.get? y.name = some x := h.get?_eq_some_iff.2 ⟨hx, hname⟩
  have hget' : c.get? y.name = some y := h.get?_eq_some_iff.2 ⟨hy, rfl⟩
  exact Option.some.inj (hget.symm.trans hget')

/-- What is listed under the name of a variable was found for that variable. -/
theorem mem_diagnostics_iff (h : Reads l es c) (hx : x ∈ c.entries) (hname : g.name = x.name) :
    g ∈ c.diagnostics ↔ g ∈ x.diagnostics := by
  rw [Catalog.mem_diagnostics_iff]
  constructor
  · rintro ⟨y, hy, hg⟩
    have hyx : y.name = x.name := (y.name_of_mem_diagnostics hg).symm.trans hname
    rwa [h.eq_of_name hy hx hyx] at hg
  · intro hg
    exact ⟨x, hx, hg⟩

theorem pairwise_diagnostics (h : Reads l es c) :
    c.diagnostics.Pairwise (Diagnostic.Precedes c.names) := by
  refine List.pairwise_flatMap.2 ⟨fun x _ => x.pairwise_diagnostics c.names, ?_⟩
  -- the variables stand where their names do
  have hplaces : c.entries.Pairwise fun x y => c.names.idxOf x.name < c.names.idxOf y.name := by
    have hnames : c.names.Pairwise fun m n => c.names.idxOf m < c.names.idxOf n := by
      rw [List.pairwise_iff_getElem]
      intro i j hi hj hij
      rwa [h.nodup_names.idxOf_getElem, h.nodup_names.idxOf_getElem]
    exact (List.pairwise_map (R := fun m n => c.names.idxOf m < c.names.idxOf n)).1 hnames
  refine hplaces.imp ?_
  intro x y hplace g hg k hk
  refine .earlier ?_
  rwa [x.name_of_mem_diagnostics hg, y.name_of_mem_diagnostics hk]

end Reads
end Catalog

/-! ## Patterns in checks -/

namespace Variable

variable {x : Variable} {c : Constraints} {source : String}

/-- A pattern that is not usable does nothing. -/
theorem check_of_compile_error {fault : PatternFault} (hc : x.validation = some c)
    (hpattern : c.pattern = some source) (hcompile : Pattern.compile source = .error fault)
    (v : Value) : x.check v = x.withoutPattern.check v := by
  have hnone : c.checkPattern x.label v = none := by
    simp [Constraints.checkPattern, hpattern, Pattern.compile?, hcompile, Except.toOption]
  rw [check_eq_or hc, hnone, Option.map_none, ite_self, Option.or_none]

/-- A usable pattern rejects what passes all other checks, has a value, and contains no match. -/
theorem check_of_compile {p : Pattern Atom} (hc : x.validation = some c)
    (hpattern : c.pattern = some source) (hcompile : Pattern.compile source = .ok p)
    (v : Value) :
    x.check v =
      (x.withoutPattern.check v).or
        (if v.isVacant = false ∧ p.finds v.text = false then
          some (c.reword (.patternMismatch x.label source)) else none) := by
  have hmatch : c.checkPattern x.label v =
      if p.finds v.text then none else some (.patternMismatch x.label source) := by
    simp [Constraints.checkPattern, hpattern, Pattern.compile?, hcompile, Except.toOption]
  rw [check_eq_or hc, hmatch]
  cases v.isVacant <;> cases p.finds v.text <;> rfl

end Variable

namespace Catalog.Reads

variable {c : Catalog} {es : List Expression} {x : Variable} {rules : Constraints} {source : String}

/-- A pattern is reported if it cannot be compiled. -/
theorem exists_invalidPattern_iff (h : Reads l es c) (hx : x ∈ c.entries)
    (hrules : x.validation = some rules) (hpattern : rules.pattern = some source) :
    (∃ pattern reason, .invalidPattern x.name pattern reason ∈ c.diagnostics) ↔
      ∃ fault, Pattern.compile source = .error fault := by
  constructor
  · rintro ⟨pattern, reason, hmem⟩
    obtain ⟨-, c', fault, hc', hpattern', hcompile, -⟩ :=
      Variable.invalidPattern_mem_iff.1 ((h.mem_diagnostics_iff hx rfl).1 hmem)
    obtain rfl : rules = c' := Option.some.inj (hrules.symm.trans hc')
    obtain rfl : source = pattern := Option.some.inj (hpattern.symm.trans hpattern')
    exact ⟨fault, hcompile⟩
  · rintro ⟨fault, hcompile⟩
    refine ⟨source, fault.message, (h.mem_diagnostics_iff hx rfl).2 ?_⟩
    exact Variable.invalidPattern_mem_iff.2 ⟨rfl, rules, fault, hrules, hpattern, hcompile, rfl⟩

end Catalog.Reads

/-! ## Reported or enforced -/

/-- A pattern that is reported makes no difference to any check.  One that is not reported rejects,
beside the values that are rejected without it, exactly the values that are there and whose text
contains no match; where something else is wrong, that is what is found.

A template's diagnostics are listed in the order of its variables, at most one about the pattern and
then at most one about the bounds of each; all are about variables of the template, and none about
variables without rules. -/
theorem pattern_checked_unless_reported (d : Delimiters) (l : Lexicon) (content : String) :
    let c := Catalog.parse d l content
    (∀ x ∈ c.entries, ∀ rules source, x.validation = some rules → rules.pattern = some source →
      ((∃ pattern reason, .invalidPattern x.name pattern reason ∈ c.diagnostics) →
        ∀ v, x.check v = x.withoutPattern.check v) ∧
      ((¬ ∃ pattern reason, .invalidPattern x.name pattern reason ∈ c.diagnostics) →
        ∃ p, Pattern.compile source = .ok p ∧ ∀ v,
          (x.check v ≠ none ↔
            x.withoutPattern.check v ≠ none ∨ v.isVacant = false ∧ p.finds v.text = false) ∧
          ∀ e, x.withoutPattern.check v = some e → x.check v = some e)) ∧
      c.diagnostics.Pairwise (Diagnostic.Precedes c.names) ∧
      (∀ g ∈ c.diagnostics, g.name ∈ c.names) ∧
      ∀ x ∈ c.entries, x.validation = none → ∀ g ∈ c.diagnostics, g.name ≠ x.name := by
  intro c
  have hreads := Catalog.reads_parse d l content
  refine ⟨?_, hreads.pairwise_diagnostics, ?_, ?_⟩
  · intro x hx rules source hrules hpattern
    rw [hreads.exists_invalidPattern_iff hx hrules hpattern]
    refine ⟨?_, ?_⟩
    · rintro ⟨fault, hcompile⟩ v
      exact x.check_of_compile_error hrules hpattern hcompile v
    · intro hreported
      cases hcompile : Pattern.compile source with
      | error fault => exact absurd ⟨fault, hcompile⟩ hreported
      | ok p =>
          refine ⟨p, rfl, ?_⟩
          intro v
          rw [x.check_of_compile hrules hpattern hcompile v]
          refine ⟨?_, ?_⟩
          · rw [ne_eq, Option.or_eq_none_iff]
            by_cases hmismatch : v.isVacant = false ∧ p.finds v.text = false
            · simp [hmismatch]
            · simp [hmismatch]
          · intro e he
            rw [he, Option.some_or]
  · intro g hg
    obtain ⟨x, hx, hgx⟩ := Catalog.mem_diagnostics_iff.1 hg
    rw [x.name_of_mem_diagnostics hgx]
    exact List.mem_map_of_mem hx
  · intro x hx hnone g hg hname
    obtain ⟨rules, hrules, -⟩ :=
      Variable.mem_diagnostics_iff.1 ((hreads.mem_diagnostics_iff hx hname).1 hg)
    rw [hnone] at hrules
    cases hrules

/-- A pattern with an open group does nothing, and the pattern of the next variable does. -/
theorem pattern_checked_unless_reported_group :
    let c := Catalog.parse .standard .empty
      "\x7b\x7bcode:text:pattern=(a\x7d\x7d \x7b\x7broom:text:max=9,pattern=^A\x7d\x7d"
    (∃ x ∈ c.entries, x.name = "code" ∧ ∀ v, x.check v = x.withoutPattern.check v) ∧
      ∃ x ∈ c.entries, x.name = "room" ∧ ∃ p, Pattern.compile "^A" = .ok p ∧
        ∀ v, x.check v ≠ none ↔
          x.withoutPattern.check v ≠ none ∨ v.isVacant = false ∧ p.finds v.text = false := by
  intro c
  obtain ⟨hchecks, -⟩ := pattern_checked_unless_reported .standard .empty
    "\x7b\x7bcode:text:pattern=(a\x7d\x7d \x7b\x7broom:text:max=9,pattern=^A\x7d\x7d"
  have hdiagnostics : c.diagnostics = [.invalidPattern "code" "(a" "regex parse error:"] := by
    decide +kernel
  refine ⟨?_, ?_⟩
  · have hdeclared : ∃ x ∈ c.entries, x.name = "code" ∧
        x.validation = some { pattern := some "(a" } := by
      decide +kernel
    obtain ⟨x, hx, hname, hrules⟩ := hdeclared
    refine ⟨x, hx, hname, (hchecks x hx _ "(a" hrules rfl).1 ⟨"(a", "regex parse error:", ?_⟩⟩
    rw [hname]
    exact hdiagnostics ▸ List.mem_singleton_self _
  · have hdeclared : ∃ x ∈ c.entries, x.name = "room" ∧
        x.validation = some { max := some 9, pattern := some "^A" } := by
      decide +kernel
    obtain ⟨x, hx, hname, hrules⟩ := hdeclared
    have hunreported : ¬ ∃ pattern reason, .invalidPattern x.name pattern reason ∈ c.diagnostics := by
      rw [hname, hdiagnostics]
      simp
    obtain ⟨p, hcompile, hp⟩ := (hchecks x hx _ "^A" hrules rfl).2 hunreported
    exact ⟨x, hx, hname, p, hcompile, fun v => (hp v).1⟩

end FormTemplate
