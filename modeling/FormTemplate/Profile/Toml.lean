import FormTemplate.Profile
import FormTemplate.Toml.Reader
import FormTemplate.Toml.Record

/-!
# Toml — configurations as TOML documents

`ProfileBook.read?` reads a configuration.  The version and the table of profiles have to be there;
all fields of a profile and of the log settings may be missing, and unknown ones do not matter.
-/

namespace FormTemplate

namespace FieldType

/-- A type is written as its identifier, or as a table with the identifier and nothing in it. -/
def ofToml? : Toml → Option FieldType
  | .string s => ofId? s
  | .table [(s, .table [])] => ofId? s
  | .table [(s, .array [])] => ofId? s
  | _ => none

end FieldType

def TypeKeyword.ofToml? (t : Toml) : Option TypeKeyword := do
  let [keyword, type] ← Toml.record? ["keyword", "type"] t | none
  return ⟨← keyword.bind Toml.asString?, ← type.bind FieldType.ofToml?⟩

def OptionKeyword.ofToml? (t : Toml) : Option OptionKeyword := do
  let [keyword, choices] ← Toml.record? ["keyword", "choices"] t | none
  return ⟨← keyword.bind Toml.asString?, ← choices.bind (Toml.asList? Toml.asString?)⟩

namespace Profile

def fieldNames : List String :=
  ["open", "close", "separator", "replace_builtin", "labels", "type_keywords", "option_keywords"]

def ofToml? (t : Toml) : Option Profile := do
  let [opening, closing, separator, replaces, labels, typeKeywords, optionKeywords] ←
      Toml.record? fieldNames t
    | none
  return {
    opening := ← Toml.defaulted? Toml.asString? Delimiters.defaultOpening opening
    closing := ← Toml.defaulted? Toml.asString? Delimiters.defaultClosing closing
    separator := ← Toml.defaulted? Toml.asString? Delimiters.defaultSeparator separator
    replacesBuiltin := ← Toml.defaulted? Toml.asBool? false replaces
    labels := ← Toml.defaulted? (Toml.asMap? Toml.asString?) [] labels
    typeKeywords := ← Toml.defaulted? (Toml.asList? TypeKeyword.ofToml?) [] typeKeywords
    optionKeywords := ← Toml.defaulted? (Toml.asList? OptionKeyword.ofToml?) [] optionKeywords }

end Profile

namespace LogSettings

def ofToml? (t : Toml) : Option LogSettings := do
  let [level, fileLevel, file] ← Toml.record? ["level", "file_level", "file"] t | none
  return {
    level := ← Toml.defaulted? Toml.asString? ({} : LogSettings).level level
    fileLevel := ← Toml.optional? Toml.asString? fileLevel
    file := ← Toml.optional? Toml.asString? file }

end LogSettings

namespace ProfileBook

def ofToml? (entries : List (String × Toml)) : Option ProfileBook := do
  let [version, chosen, profiles, logging] :=
      Toml.fields ["version", "profile", "profiles", "logging"] entries
    | none
  return {
    version := ← version.bind Toml.asWord32?
    chosen := ← Toml.optional? Toml.asString? chosen
    profiles := ← profiles.bind (Toml.asMap? Profile.ofToml?)
    logging := ← Toml.defaulted? LogSettings.ofToml? {} logging }

/-- The configuration that a TOML document describes. -/
def read? (text : String) : Option ProfileBook :=
  (Toml.read? text).bind ofToml?

end ProfileBook
end FormTemplate
