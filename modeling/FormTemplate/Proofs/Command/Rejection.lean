import FormTemplate.Proofs.Command.Runs
import FormTemplate.Proofs.Files.Changes

/-!
# Rejection — commands that write their text to a file

A command with an output path writes once, at its end.  Whatever keeps it from getting there leaves the
files as they were, but for the log file.

* `Rejected` — the reasons for ending before that, each with what the command says;
* `Accepted` — the values that a command goes on with otherwise, and what they have passed;
* `Unwritten`, `writeOutput_cases` — the end itself, which either gives the file its text or fails;
* `rejected_writes_nothing` — what is left of the files in each case.
-/

namespace FormTemplate
namespace Command

open Files (Spares)

variable {e : Environment} {config profile : Option String} {i : Input} {fs fs' : Files}
  {g : Gathered} {a : Action} {r : Refusal}

/-- The log file of a command, if its configuration has one. -/
def logFile? (e : Environment) (config profile : Option String) (fs : Files) : Option String :=
  match Configuration.loadOrBuiltin e fs config profile with
  | .ok c => c.logging.file
  | .error _ => none

/-! ## Reasons -/

/-- Why a command that gives out a text does not get to it, and the files that it leaves. -/
inductive Rejected (e : Environment) (config profile : Option String) (fs : Files) :
    Action → Refusal → Files → Prop where
  | refused {a : Action} {i : Input} {r : Refusal} {fs' : Files} (hinput : a.input? = some i)
      (hrefused : Refused e config profile i fs r fs') : Rejected e config profile fs a r fs'
  | invalid {i : Input} {output : Option String} {g : Gathered}
      (hgathers : Gathers e config profile i fs g) (hinvalid : (g.report g.values).valid = false) :
      Rejected e config profile fs (.render i true output)
        (.told (reportLines (g.report g.values))) g.files
  | missing {i : Input} {output : Option String} {g : Gathered} {missing : MissingRequired}
      (hgathers : Gathers e config profile i fs g)
      (hmissing : g.catalog.collect g.values = .error missing) :
      Rejected e config profile fs (.fill i output) (.complained ("Error: " ++ missing.message))
        g.files
  | unfilled {i : Input} {output : Option String} {g : Gathered} {collected : Collected}
      (hgathers : Gathers e config profile i fs g)
      (hcollect : g.catalog.collect g.values = .ok collected)
      (hinvalid : (g.report collected.values).valid = false) :
      Rejected e config profile fs (.fill i output)
        (.told (reportLines (g.report collected.values))) g.files

/-- The values that a command renders with.  Only rendering without a check takes them as they are. -/
inductive Accepted (e : Environment) (config profile : Option String) (fs : Files) :
    Action → Gathered → Values → Prop where
  | unchecked {i : Input} {output : Option String} {g : Gathered}
      (hgathers : Gathers e config profile i fs g) :
      Accepted e config profile fs (.render i false output) g g.values
  | checked {i : Input} {output : Option String} {g : Gathered}
      (hgathers : Gathers e config profile i fs g) (hvalid : (g.report g.values).valid = true) :
      Accepted e config profile fs (.render i true output) g g.values
  | filled {i : Input} {output : Option String} {g : Gathered} {collected : Collected}
      (hgathers : Gathers e config profile i fs g)
      (hcollect : g.catalog.collect g.values = .ok collected)
      (hvalid : (g.report collected.values).valid = true) :
      Accepted e config profile fs (.fill i output) g collected.values

/-- Every command with an output is rejected or goes on. -/
theorem rejected_or_accepted {path : String} (houtput : a.output? = some path) :
    (∃ r fs', Rejected e config profile fs a r fs') ∨
      ∃ g values, Accepted e config profile fs a g values := by
  cases a with
  | doctor => cases houtput
  | parse template json => cases houtput
  | validate i => cases houtput
  | render i check output =>
      rcases refused_or_gathers e config profile i fs with ⟨r, fs', hr⟩ | ⟨g, hg⟩
      · exact .inl ⟨r, fs', .refused rfl hr⟩
      · cases check with
        | false => exact .inr ⟨g, _, .unchecked hg⟩
        | true =>
            cases hvalid : (g.report g.values).valid with
            | true => exact .inr ⟨g, _, .checked hg hvalid⟩
            | false => exact .inl ⟨_, _, .invalid hg hvalid⟩
  | fill i output =>
      rcases refused_or_gathers e config profile i fs with ⟨r, fs', hr⟩ | ⟨g, hg⟩
      · exact .inl ⟨r, fs', .refused rfl hr⟩
      · cases hcollect : g.catalog.collect g.values with
        | error missing => exact .inl ⟨_, _, .missing hg hcollect⟩
        | ok collected =>
            cases hvalid : (g.report collected.values).valid with
            | true => exact .inr ⟨g, _, .filled hg hcollect hvalid⟩
            | false => exact .inl ⟨_, _, .unfilled hg hcollect hvalid⟩

theorem invoke_of_rejected {path : String} (houtput : a.output? = some path)
    (h : Rejected e config profile fs a r fs') :
    invoke e ⟨config, profile, a⟩ fs = r.outcome a.name fs' := by
  cases h with
  | refused hinput hrefused =>
      -- of the commands that have inputs, only these two have an output
      cases a with
      | doctor => cases houtput
      | parse template json => cases houtput
      | validate i => cases houtput
      | render i check output =>
          cases hinput
          exact invoke_of_refused (needs_render _ check output) hrefused
      | fill i output =>
          cases hinput
          exact invoke_of_refused (needs_fill _ output) hrefused
  | invalid hgathers hinvalid =>
      rw [render_of_gathers hgathers, hinvalid]
      rfl
  | missing hgathers hmissing =>
      rw [fill_of_gathers hgathers, hmissing]
      rfl
  | unfilled hgathers hcollect hinvalid =>
      rw [fill_of_gathers hgathers, hcollect]
      simp only [hinvalid]
      rfl

theorem invoke_of_accepted {values : Values} (h : Accepted e config profile fs a g values) :
    invoke e ⟨config, profile, a⟩ fs = writeOutput a.output? (g.rendering values) g.files := by
  cases h with
  | unchecked hgathers => exact render_of_gathers hgathers false _
  | checked hgathers hvalid =>
      rw [render_of_gathers hgathers, hvalid]
      rfl
  | filled hgathers hcollect hvalid =>
      rw [fill_of_gathers hgathers, hcollect]
      simp only [hvalid, if_true]
      rfl

/-! ## Files -/

theorem spares_start {c : Configuration} {result : Except LogFault Unit}
    (hconfiguration : Configuration.loadOrBuiltin e fs config profile = .ok c)
    (hlogging : c.logging.start e fs = (fs', result)) :
    Spares (logFile? e config profile fs).toList fs fs' := by
  have hstart := c.logging.spares_start e fs
  rw [hlogging] at hstart
  rw [logFile?, hconfiguration]
  exact hstart

theorem Gathers.spares (h : Gathers e config profile i fs g) :
    Spares (logFile? e config profile fs).toList fs g.files :=
  spares_start h.configuration h.logging

theorem Refused.spares (h : Refused e config profile i fs r fs') :
    Spares (logFile? e config profile fs).toList fs fs' := by
  cases h with
  | configuration _ => exact .refl _ fs
  | logging hconfiguration hlogging => exact spares_start hconfiguration hlogging
  | template hconfiguration hlogging _ => exact spares_start hconfiguration hlogging
  | values hconfiguration hlogging _ _ => exact spares_start hconfiguration hlogging

theorem Rejected.spares (h : Rejected e config profile fs a r fs') :
    Spares (logFile? e config profile fs).toList fs fs' := by
  cases h with
  | refused _ hrefused => exact hrefused.spares
  | invalid hgathers _ => exact hgathers.spares
  | missing hgathers _ => exact hgathers.spares
  | unfilled hgathers _ _ => exact hgathers.spares

theorem Accepted.spares {values : Values} (h : Accepted e config profile fs a g values) :
    Spares (logFile? e config profile fs).toList fs g.files := by
  cases h with
  | unchecked hgathers => exact hgathers.spares
  | checked hgathers _ => exact hgathers.spares
  | filled hgathers _ _ => exact hgathers.spares

/-! ## Writing -/

/-- The folder that a path is in, as it is written in the path. -/
def parentOf (path : String) : String :=
  String.ofList ((Path.parent? path.toList).getD [])

/-- Why a text cannot be written to a path, and the message that tells so. -/
inductive Unwritten (path text : String) (fs : Files) : String → Prop where
  | folder {fs' : Files} {cause : FileFault}
      (hfolders : fs.makeFolders (parentOf path) = (fs', .error cause)) :
      Unwritten path text fs
        ("Failed to create parent directory " ++ parentOf path ++ ": " ++ cause.message)
  | file {fs' : Files} {cause : FileFault}
      (hfolders : fs.makeFolders (parentOf path) = (fs', .ok ()))
      (hwrite : fs'.write path text = .error cause) :
      Unwritten path text fs ("Failed to write output file " ++ path ++ ": " ++ cause.message)

/-- Writing gives the file at a path the text, or says why it cannot, and spares all other files. -/
theorem writeOutput_cases (path text : String) (fs : Files) :
    let o := writeOutput (some path) text fs
    Spares [path] fs o.files ∧
      ((o.exitCode = 0 ∧ o.files.read path = .ok text) ∨
        ∃ message, Unwritten path text fs message ∧ o = .reject message o.files) := by
  unfold writeOutput
  have hspares := Files.spares_makeFolders_parent fs path
  dsimp only
  cases hfolders : fs.makeFolders (String.ofList ((Path.parent? path.toList).getD [])) with
  | mk fs₁ result =>
      rw [hfolders] at hspares
      cases result with
      -- some of the folders may have been made, which are on the way to the file all the same
      | error cause => exact ⟨hspares, .inr ⟨_, .folder hfolders, rfl⟩⟩
      | ok _ =>
          dsimp only
          cases hwrite : fs₁.write path text with
          | error cause => exact ⟨hspares, .inr ⟨_, .file hfolders hwrite, rfl⟩⟩
          | ok fs₂ =>
              exact ⟨hspares.trans (Files.spares_write hwrite),
                .inl ⟨rfl, Files.read_of_write hwrite⟩⟩

/-- A command with an output path that is rejected, be it for the configuration, the log, the template,
the values, a missing variable or the report on the values, leaves all but the log file as it was and
only says why.  If it ends with code zero, the output file has the rendering of the template with
values that have passed the report unless no check was asked for, and all but that file and the log
file is as it was.  Should it fail without being rejected, then because that file cannot be written. -/
theorem rejected_writes_nothing (e : Environment) (config profile : Option String) (a : Action)
    (fs : Files) {path : String} (houtput : a.output? = some path) :
    let o := invoke e ⟨config, profile, a⟩ fs
    let log := (logFile? e config profile fs).toList
    (∀ r fs', Rejected e config profile fs a r fs' →
        o = r.outcome a.name fs' ∧ o.exitCode = 1 ∧ Spares log fs o.files) ∧
      (o.exitCode = 0 → ∃ g values, Accepted e config profile fs a g values ∧
        o.files.read path = .ok (g.rendering values) ∧ Spares (log ++ [path]) fs o.files) ∧
      (o.exitCode ≠ 0 → (∃ r fs', Rejected e config profile fs a r fs') ∨
        ∃ g values message, Accepted e config profile fs a g values ∧
          Unwritten path (g.rendering values) g.files message ∧
          o = .reject message o.files) := by
  intro o log
  have hrejected : ∀ r fs', Rejected e config profile fs a r fs' →
      o = r.outcome a.name fs' ∧ o.exitCode = 1 ∧ Spares log fs o.files := by
    intro r fs' hr
    have ho : o = r.outcome a.name fs' := invoke_of_rejected houtput hr
    rw [ho, r.exitCode_outcome, r.files_outcome]
    exact ⟨rfl, rfl, hr.spares⟩
  refine ⟨hrejected, ?_⟩
  rcases rejected_or_accepted houtput with ⟨r, fs', hr⟩ | ⟨g, values, hvalues⟩
  · refine ⟨?_, fun _ => .inl ⟨r, fs', hr⟩⟩
    intro hzero
    rw [(hrejected r fs' hr).2.1] at hzero
    cases hzero
  · have ho : o = writeOutput (some path) (g.rendering values) g.files :=
      houtput ▸ invoke_of_accepted hvalues
    obtain ⟨hspares, hwritten | ⟨message, hunwritten, hfailure⟩⟩ :=
      writeOutput_cases path (g.rendering values) g.files
    · -- the log file comes first, and the output file last
      rw [ho]
      refine ⟨fun _ => ⟨g, values, hvalues, hwritten.2, ?_⟩, fun h => absurd hwritten.1 h⟩
      exact (hvalues.spares.mono (List.subset_append_left log [path])).trans
        (hspares.mono (List.subset_append_right log [path]))
    · rw [ho]
      refine ⟨?_, fun _ => .inr ⟨g, values, message, hvalues, hunwritten, hfailure⟩⟩
      intro hzero
      rw [hfailure] at hzero
      cases hzero

/-- A required variable without a value keeps the output file from being made. -/
theorem unfilled_writes_nothing :
    let fs : Files := ⟨[(["t"], .text "\x7b\x7bn:text:required\x7d\x7d")], []⟩
    let a : Action := .render { template := "t" } true (some "o/p")
    let o := invoke { settings := ∅ } ⟨none, none, a⟩ fs
    a.output? = some "o/p" ∧ o.exitCode = 1 ∧ o.out = "FAIL fv render\n  n: N不能为空\n" ∧
      Spares [] fs o.files := by
  intro fs a o
  have hcode : o.exitCode = 1 := by decide +kernel
  have hout : o.out = "FAIL fv render\n  n: N不能为空\n" := by decide +kernel
  have hlog : logFile? { settings := ∅ } none none fs = none := by decide +kernel
  obtain ⟨hrejected, -, hfailed⟩ :=
    rejected_writes_nothing { settings := ∅ } none none a fs (rfl : a.output? = some "o/p")
  rcases hfailed (by rw [hcode]; exact Nat.one_ne_zero) with
    ⟨r, fs', hr⟩ | ⟨g, values, message, -, -, hfailure⟩
  · have hspares := (hrejected r fs' hr).2.2
    rw [hlog] at hspares
    exact ⟨rfl, hcode, hout, hspares⟩
  · -- a file that cannot be written is told about on the error output alone
    have hnone : o.out = "" := congrArg Outcome.out hfailure
    rw [hout] at hnone
    exact absurd hnone (by decide)

example :
    Files.entry? ["p", "o"] (invoke { settings := ∅ }
      ⟨none, none, .render { template := "t", assignments := ["n=x"] } true (some "o/p")⟩
      ⟨[(["t"], .text "\x7b\x7bn:text:required\x7d\x7d")], []⟩).files = some (.text "x") := by
  decide +kernel

end Command
end FormTemplate
