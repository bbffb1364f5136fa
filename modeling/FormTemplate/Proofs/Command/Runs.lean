import FormTemplate.Command
import FormTemplate.Proofs.Catalog.Index
import FormTemplate.Proofs.Files.Places

/-!
# Runs — what commands do before they differ

Rendering, validating and filling start alike: the configuration, then the log, then the template and
then the values have to be in order.

* `Gathered`, `Gathers` — what a command has when all of them are;
* `Refusal`, `Refused` — how and why a command ends before that;
* `refused_or_gathers`, `Refused.not_gathers` — exactly one of the two is the case;
* `invoke_of_refused` — a refused command only tells why;
* `validate_of_gathers`, `render_of_gathers`, `fill_of_gathers` — what each command does with what it
  has gathered.

Lines that logging adds to a log file are no part of `Files`, so that all this is about commands whose
inputs are other files.
-/

namespace FormTemplate
namespace Command

/-! ## Gathering -/

/-- What a command has when it has read its inputs. -/
structure Gathered where
  configuration : Configuration
  /-- The files once logging has started. -/
  files : Files
  content : String
  values : Values

namespace Gathered

def catalog (g : Gathered) : Catalog :=
  g.configuration.dialect.parse g.content

/-- What there is to say about a value set for the template. -/
def report (g : Gathered) (values : Values) : Report :=
  g.catalog.validate values

/-- The template with a value set. -/
def rendering (g : Gathered) (values : Values) : String :=
  g.configuration.dialect.render g.content values

end Gathered

variable {e : Environment} {config profile : Option String} {i : Input} {fs fs' : Files}
  {g : Gathered} {a : Action}

/-- All inputs are in order and have been read. -/
structure Gathers (e : Environment) (config profile : Option String) (i : Input) (fs : Files)
    (g : Gathered) : Prop where
  configuration : Configuration.loadOrBuiltin e fs config profile = .ok g.configuration
  logging : g.configuration.logging.start e fs = (g.files, .ok ())
  template : g.files.read i.template = .ok g.content
  values : Values.supplied g.files i.valuesFile i.assignments = .ok g.values

theorem Gathers.unique {g' : Gathered} (h : Gathers e config profile i fs g)
    (h' : Gathers e config profile i fs g') : g = g' := by
  obtain ⟨c, files, content, values⟩ := g
  obtain ⟨c', files', content', values'⟩ := g'
  obtain rfl : c = c' := Except.ok.inj (h.configuration.symm.trans h'.configuration)
  obtain rfl : files = files' := (Prod.mk.inj (h.logging.symm.trans h'.logging)).1
  obtain rfl : content = content' := Except.ok.inj (h.template.symm.trans h'.template)
  obtain rfl : values = values' := Except.ok.inj (h.values.symm.trans h'.values)
  rfl

/-! ## Refusing -/

/-- What a command says when it fails without having done anything. -/
inductive Refusal where
  /-- Lines on the standard output, below a header that names the command. -/
  | told (lines : List String)
  /-- A message on the error output. -/
  | complained (message : String)

def Refusal.outcome (command : String) (fs : Files) : Refusal → Outcome
  | told lines => .fail (failed command :: lines) fs
  | complained message => .reject message fs

@[simp]
theorem Refusal.exitCode_outcome (r : Refusal) (command : String) (fs : Files) :
    (r.outcome command fs).exitCode = 1 := by
  cases r <;> rfl

@[simp]
theorem Refusal.files_outcome (r : Refusal) (command : String) (fs : Files) :
    (r.outcome command fs).files = fs := by
  cases r <;> rfl

/-- Why a command cannot gather its inputs, and the files that it leaves then. -/
inductive Refused (e : Environment) (config profile : Option String) (i : Input) (fs : Files) :
    Refusal → Files → Prop where
  | configuration {fault : ConfigurationFault}
      (hconfiguration : Configuration.loadOrBuiltin e fs config profile = .error fault) :
      Refused e config profile i fs
        (.told (fault.message ::
          if config.isNone then ["looked for: " ++ e.configPath] else [])) fs
  | logging {c : Configuration} {fs' : Files} {fault : LogFault}
      (hconfiguration : Configuration.loadOrBuiltin e fs config profile = .ok c)
      (hlogging : c.logging.start e fs = (fs', .error fault)) :
      Refused e config profile i fs
        (.told (fault.message :: (c.source.map fun path => "config: " ++ path).toList)) fs'
  | template {c : Configuration} {fs' : Files} {fault : TemplateFault}
      (hconfiguration : Configuration.loadOrBuiltin e fs config profile = .ok c)
      (hlogging : c.logging.start e fs = (fs', .ok ()))
      (htemplate : c.dialect.load fs' i.template = .error fault) :
      Refused e config profile i fs (.complained ("Error loading template: " ++ fault.message)) fs'
  | values {c : Configuration} {fs' : Files} {content : String} {fault : SupplyFault}
      (hconfiguration : Configuration.loadOrBuiltin e fs config profile = .ok c)
      (hlogging : c.logging.start e fs = (fs', .ok ()))
      (htemplate : fs'.read i.template = .ok content)
      (hvalues : Values.supplied fs' i.valuesFile i.assignments = .error fault) :
      Refused e config profile i fs (.complained ("Error loading values: " ++ fault.message)) fs'

theorem load_of_read {d : Dialect} {path content : String} (h : fs.read path = .ok content) :
    d.load fs path = .ok (d.parse content) := by
  simp only [Dialect.load, Files.contains_of_read h, h, Bool.not_true, Bool.false_eq_true, if_false]

theorem exists_read_of_load {d : Dialect} {path : String} {c : Catalog}
    (h : d.load fs path = .ok c) : ∃ content, fs.read path = .ok content := by
  unfold Dialect.load at h
  split at h
  case isTrue => cases h
  case isFalse =>
      cases hread : fs.read path with
      | error fault => simp [hread] at h
      | ok content => exact ⟨content, rfl⟩

theorem refused_or_gathers (e : Environment) (config profile : Option String) (i : Input)
    (fs : Files) :
    (∃ r fs', Refused e config profile i fs r fs') ∨ ∃ g, Gathers e config profile i fs g := by
  cases hconfiguration : Configuration.loadOrBuiltin e fs config profile with
  | error fault => exact .inl ⟨_, _, .configuration hconfiguration⟩
  | ok c =>
      cases hlogging : c.logging.start e fs with
      | mk fs' result =>
          cases result with
          | error fault => exact .inl ⟨_, _, .logging hconfiguration hlogging⟩
          | ok _ =>
              cases htemplate : c.dialect.load fs' i.template with
              | error fault => exact .inl ⟨_, _, .template hconfiguration hlogging htemplate⟩
              | ok catalog =>
                  obtain ⟨content, hread⟩ := exists_read_of_load htemplate
                  cases hvalues : Values.supplied fs' i.valuesFile i.assignments with
                  | error fault =>
                      exact .inl ⟨_, _, .values hconfiguration hlogging hread hvalues⟩
                  | ok values =>
                      exact .inr ⟨⟨c, fs', content, values⟩, hconfiguration, hlogging, hread,
                        hvalues⟩

theorem Refused.not_gathers {r : Refusal} (hr : Refused e config profile i fs r fs') :
    ¬ Gathers e config profile i fs g := by
  rintro ⟨hconfiguration', hlogging', htemplate', hvalues'⟩
  -- every refusal is for an input that would have been gathered
  cases hr with
  | configuration hconfiguration =>
      rw [hconfiguration] at hconfiguration'
      cases hconfiguration'
  | logging hconfiguration hlogging =>
      cases hconfiguration.symm.trans hconfiguration'
      cases hlogging.symm.trans hlogging'
  | template hconfiguration hlogging htemplate =>
      cases hconfiguration.symm.trans hconfiguration'
      obtain ⟨rfl, -⟩ := Prod.mk.inj (hlogging.symm.trans hlogging')
      cases htemplate.symm.trans (load_of_read htemplate')
  | values hconfiguration hlogging htemplate hvalues =>
      cases hconfiguration.symm.trans hconfiguration'
      obtain ⟨rfl, -⟩ := Prod.mk.inj (hlogging.symm.trans hlogging')
      cases hvalues.symm.trans hvalues'

/-! ## Going on -/

/-- A command goes on once it has a template and values. -/
def Needs (a : Action) (i : Input) : Prop :=
  ∀ (e : Environment) (c : Configuration) (fs : Files),
    ∃ next, runAction e c a fs = withInput c.dialect i fs next

theorem needs_validate (i : Input) : Needs (.validate i) i := fun _ _ _ => ⟨_, rfl⟩

theorem needs_render (i : Input) (check : Bool) (output : Option String) :
    Needs (.render i check output) i :=
  fun _ _ _ => ⟨_, rfl⟩

theorem needs_fill (i : Input) (output : Option String) : Needs (.fill i output) i :=
  fun _ _ _ => ⟨_, rfl⟩

/-- A refused command tells why, under its own name, and does nothing else. -/
theorem invoke_of_refused {r : Refusal} (ha : Needs a i)
    (h : Refused e config profile i fs r fs') :
    invoke e ⟨config, profile, a⟩ fs = r.outcome a.name fs' := by
  cases h with
  -- the first two faults come before the action is looked at
  | configuration hconfiguration => simp [invoke, hconfiguration, Refusal.outcome]
  | logging hconfiguration hlogging => simp [invoke, hconfiguration, hlogging, Refusal.outcome]
  | @template c _ _ hconfiguration hlogging htemplate =>
      obtain ⟨next, hnext⟩ := ha e c fs'
      simp only [invoke, hconfiguration, hlogging]
      rw [hnext, withInput, withTemplate, htemplate]
      rfl
  | @values c _ _ _ hconfiguration hlogging htemplate hvalues =>
      obtain ⟨next, hnext⟩ := ha e c fs'
      simp only [invoke, hconfiguration, hlogging]
      rw [hnext, withInput, withTemplate, load_of_read htemplate, hvalues]
      rfl

theorem invoke_of_gathers (h : Gathers e config profile i fs g) (a : Action) :
    invoke e ⟨config, profile, a⟩ fs = runAction e g.configuration a g.files := by
  simp only [invoke, h.configuration, h.logging]

theorem withInput_of_gathers (h : Gathers e config profile i fs g)
    (next : Catalog → Values → Outcome) :
    withInput g.configuration.dialect i g.files next = next g.catalog g.values := by
  rw [withInput, withTemplate, load_of_read h.template, h.values]
  rfl

theorem Gathered.content_catalog (g : Gathered) : g.catalog.content = g.content :=
  Catalog.content_foldl _ _

theorem validate_of_gathers (h : Gathers e config profile i fs g) :
    invoke e ⟨config, profile, .validate i⟩ fs =
      (if (g.report g.values).valid then
        Outcome.succeed
          (Outcome.lines ([passed "validate", "variables: " ++ Text.showInt g.catalog.size] ++
            reportLines (g.report g.values)))
          g.files
      else .fail (failed "validate" :: reportLines (g.report g.values)) g.files).withWarnings
        (diagnosticLines g.catalog) := by
  rw [invoke_of_gathers h]
  exact withInput_of_gathers h _

theorem render_of_gathers (h : Gathers e config profile i fs g) (check : Bool)
    (output : Option String) :
    invoke e ⟨config, profile, .render i check output⟩ fs =
      if check && !(g.report g.values).valid then
        .fail (failed "render" :: reportLines (g.report g.values)) g.files
      else writeOutput output (g.rendering g.values) g.files := by
  rw [invoke_of_gathers h, Gathered.rendering, ← g.content_catalog]
  exact withInput_of_gathers h _

theorem fill_of_gathers (h : Gathers e config profile i fs g) (output : Option String) :
    invoke e ⟨config, profile, .fill i output⟩ fs =
      match g.catalog.collect g.values with
      | .error missing => .reject ("Error: " ++ missing.message) g.files
      | .ok collected =>
        if (g.report collected.values).valid then
          writeOutput output (g.rendering collected.values) g.files
        else .fail (failed "fill" :: reportLines (g.report collected.values)) g.files := by
  simp only [invoke_of_gathers h, Gathered.rendering, ← g.content_catalog]
  exact withInput_of_gathers h _

end Command
end FormTemplate
