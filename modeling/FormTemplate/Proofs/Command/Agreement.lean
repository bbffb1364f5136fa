import FormTemplate.Proofs.Command.Runs

/-!
# Agreement — commands on the same inputs

Validating, rendering with a check and filling read the same inputs and judge them by the same report,
each with an ending of its own.

* `SameButHeader` — outputs that differ at most in the command that the header of a failure names;
* `collect_of_covered` — value sets with all names are not completed;
* `commands_agree` — what the three commands have in common.

Warnings about a template go to the error output, and only validating gives them.
-/

namespace FormTemplate

/-! ## Covered catalogs -/

theorem Collected.foldlM_add_of_covered {xs : List Variable} {provided : Values}
    (h : ∀ x ∈ xs, x.name ∈ provided) :
    xs.foldlM Collected.add { values := provided } = .ok { values := provided } := by
  induction xs with
  | nil => rfl
  | cons x xs ih =>
      have hadd : Collected.add { values := provided } x = .ok { values := provided } :=
        if_pos (Std.ExtTreeMap.contains_iff_mem.2 (h x List.mem_cons_self))
      rw [List.foldlM_cons, hadd]
      exact ih fun y hy => h y (List.mem_cons_of_mem x hy)

theorem Catalog.collect_of_covered {c : Catalog} {provided : Values}
    (h : ∀ n ∈ c.names, n ∈ provided) : c.collect provided = .ok { values := provided } :=
  Collected.foldlM_add_of_covered fun x hx => h x.name (List.mem_map_of_mem hx)

namespace Command

/-! ## Outputs -/

/-- Two outputs that are equal, but for the command that each names in the header of a failure. -/
def SameButHeader (command command' out out' : String) : Prop :=
  out = out' ∨
    ∃ ls, out = Outcome.lines (failed command :: ls) ∧ out' = Outcome.lines (failed command' :: ls)

theorem Refusal.sameButHeader (r : Refusal) (command command' : String) (fs : Files) :
    SameButHeader command command' (r.outcome command fs).out (r.outcome command' fs).out := by
  cases r with
  | told ls => exact .inr ⟨ls, rfl, rfl⟩
  | complained message => exact .inl rfl

/-- With values for all variables there is nothing to complete. -/
theorem fill_of_covered {e : Environment} {config profile : Option String} {i : Input} {fs : Files}
    {g : Gathered} (h : Gathers e config profile i fs g)
    (hcovered : ∀ n ∈ g.catalog.names, n ∈ g.values) (output : Option String) :
    invoke e ⟨config, profile, .fill i output⟩ fs =
      if (g.report g.values).valid then writeOutput output (g.rendering g.values) g.files
      else .fail (failed "fill" :: reportLines (g.report g.values)) g.files := by
  have hfill := fill_of_gathers h output
  rwa [Catalog.collect_of_covered hcovered] at hfill

/-- Validating a value set and rendering with a check end with the same code, which is zero exactly if
all inputs are in order and the values are valid.  When they fail, their standard outputs are the same
but for the command that is named; when they succeed, rendering with a check prints what it prints
without, the template with the values.  Filling a template whose variables all have values ends and
prints as rendering with a check does. -/
theorem commands_agree (e : Environment) (config profile : Option String) (i : Input) (fs : Files) :
    let validated := invoke e ⟨config, profile, .validate i⟩ fs
    let checked := invoke e ⟨config, profile, .render i true none⟩ fs
    let rendered := invoke e ⟨config, profile, .render i false none⟩ fs
    let filled := invoke e ⟨config, profile, .fill i none⟩ fs
    validated.exitCode = checked.exitCode ∧
      (validated.exitCode = 0 ↔
        ∃ g, Gathers e config profile i fs g ∧ (g.report g.values).valid = true) ∧
      (checked.exitCode ≠ 0 → SameButHeader "validate" "render" validated.out checked.out) ∧
      (checked.exitCode = 0 → rendered.exitCode = 0 ∧ checked.out = rendered.out ∧
        ∃ g, Gathers e config profile i fs g ∧ rendered.out = g.rendering g.values) ∧
      ((∀ g, Gathers e config profile i fs g → ∀ n ∈ g.catalog.names, n ∈ g.values) →
        filled.exitCode = checked.exitCode ∧
          (checked.exitCode = 0 → filled.out = checked.out) ∧
          (checked.exitCode ≠ 0 → SameButHeader "fill" "render" filled.out checked.out)) := by
  intro validated checked rendered filled
  rcases refused_or_gathers e config profile i fs with ⟨r, fs', hr⟩ | ⟨g, hg⟩
  · -- one refusal for all of them, under three names
    have hvalidated : validated = r.outcome "validate" fs' := invoke_of_refused (needs_validate i) hr
    have hchecked : checked = r.outcome "render" fs' := invoke_of_refused (needs_render i true none) hr
    have hfilled : filled = r.outcome "fill" fs' := invoke_of_refused (needs_fill i none) hr
    rw [hvalidated, hchecked, hfilled, r.exitCode_outcome, r.exitCode_outcome, r.exitCode_outcome]
    refine ⟨rfl, ?_, ?_, ?_, ?_⟩
    · simp [hr.not_gathers]
    · exact fun _ => r.sameButHeader "validate" "render" fs'
    · exact fun h => absurd h Nat.one_ne_zero
    · exact fun _ => ⟨rfl, fun h => absurd h Nat.one_ne_zero,
        fun _ => r.sameButHeader "fill" "render" fs'⟩
  · cases hvalid : (g.report g.values).valid with
    | true =>
        -- every command succeeds, and all but validating print the same text
        have hvalidated : validated.exitCode = 0 :=
          (congrArg Outcome.exitCode (validate_of_gathers hg)).trans (by rw [hvalid]; rfl)
        have hchecked : checked = .succeed (g.rendering g.values) g.files :=
          (render_of_gathers hg true none).trans (by rw [hvalid]; rfl)
        have hrendered : rendered = .succeed (g.rendering g.values) g.files :=
          render_of_gathers hg false none
        rw [hvalidated, hchecked, hrendered]
        refine ⟨rfl, ⟨fun _ => ⟨g, hg, hvalid⟩, fun _ => rfl⟩, fun h => absurd rfl h,
          fun _ => ⟨rfl, rfl, g, hg, rfl⟩, ?_⟩
        intro hcovered
        have hfilled : filled = .succeed (g.rendering g.values) g.files :=
          (fill_of_covered hg (hcovered g hg) none).trans (by rw [hvalid]; rfl)
        rw [hfilled]
        exact ⟨rfl, fun _ => rfl, fun h => absurd rfl h⟩
    | false =>
        -- every command but rendering without a check fails, with the lines of the report
        have hvalidated : validated.exitCode = 1 ∧
            validated.out = Outcome.lines (failed "validate" :: reportLines (g.report g.values)) := by
          have h := validate_of_gathers hg
          rw [hvalid] at h
          exact ⟨congrArg Outcome.exitCode h, congrArg Outcome.out h⟩
        have hchecked : checked =
            .fail (failed "render" :: reportLines (g.report g.values)) g.files :=
          (render_of_gathers hg true none).trans (by rw [hvalid]; rfl)
        -- what is gathered is unique, so no other report could be valid
        have hinvalid : ¬ ∃ g, Gathers e config profile i fs g ∧ (g.report g.values).valid = true := by
          rintro ⟨g', hg', hvalid'⟩
          rw [← hg.unique hg', hvalid] at hvalid'
          cases hvalid'
        rw [hvalidated.1, hvalidated.2, hchecked]
        refine ⟨rfl, by simp [hinvalid], fun _ => .inr ⟨_, rfl, rfl⟩,
          fun h => absurd h Nat.one_ne_zero, ?_⟩
        intro hcovered
        have hfilled : filled = .fail (failed "fill" :: reportLines (g.report g.values)) g.files :=
          (fill_of_covered hg (hcovered g hg) none).trans (by rw [hvalid]; rfl)
        rw [hfilled]
        exact ⟨rfl, fun h => absurd h Nat.one_ne_zero, fun _ => .inr ⟨_, rfl, rfl⟩⟩

end Command
end FormTemplate
