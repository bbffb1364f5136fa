import FormTemplate.Dialect

/-!
# Profile — the dialects and logging of one deployment

* `Profile` — a dialect as it is configured: delimiters, and tables that extend or replace the
  built-in ones;
* `LogSettings` — how much is logged, and the file for it;
* `ProfileBook` — the named profiles of a configuration, one of which it may choose.
-/

namespace FormTemplate

structure Profile where
  opening : String := Delimiters.defaultOpening
  closing : String := Delimiters.defaultClosing
  separator : String := Delimiters.defaultSeparator
  /-- Whether the tables start out empty. -/
  replacesBuiltin : Bool := false
  labels : List (String × String) := []
  typeKeywords : List TypeKeyword := []
  optionKeywords : List OptionKeyword := []

namespace Profile

def lexicon (p : Profile) : Lexicon :=
  (if p.replacesBuiltin then Lexicon.empty else Lexicon.builtin)
    |>.withLabels p.labels
    |>.withTypeKeywords p.typeKeywords
    |>.withOptionKeywords p.optionKeywords

def dialect (p : Profile) : Except DelimiterFault Dialect :=
  (Delimiters.make p.opening p.closing p.separator).map fun d => ⟨d, p.lexicon⟩

end Profile

structure LogSettings where
  level : String := "info"
  /-- The level of the log file, if it has one of its own. -/
  fileLevel : Option String := none
  file : Option String := none

structure ProfileBook where
  version : Nat
  /-- The profile in use unless another one is asked for. -/
  chosen : Option String
  profiles : List (String × Profile)
  logging : LogSettings

namespace ProfileBook

/-- The version of configurations that is understood. -/
def supportedVersion : Nat := 1

/-- The name of the profile in use. -/
def activeName (asked : Option String) (b : ProfileBook) : String :=
  (asked.or b.chosen).getD "default"

end ProfileBook
end FormTemplate
