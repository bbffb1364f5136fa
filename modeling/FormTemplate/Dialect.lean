import FormTemplate.Lexicon.Builtin
import FormTemplate.Report

/-!
# Dialect — how templates are written and understood

A dialect has the delimiters of placeholders and the lexicon that bare names are looked up in.
-/

namespace FormTemplate

structure Dialect where
  delimiters : Delimiters
  lexicon : Lexicon

namespace Dialect

/-- The standard delimiters with the built-in lexicon. -/
def builtin : Dialect :=
  ⟨.standard, .builtin⟩

def parse (d : Dialect) (content : String) : Catalog :=
  Catalog.parse d.delimiters d.lexicon content

def render (d : Dialect) (content : String) (values : Values) : String :=
  FormTemplate.render d.delimiters content values

def isBuiltin (d : Dialect) : Bool :=
  d.delimiters == builtin.delimiters && d.lexicon == builtin.lexicon

end Dialect
end FormTemplate
