import FormTemplate.Dialect
import FormTemplate.Files

/-!
# TemplateFile — templates that are kept in files

`Dialect.load` reads a file and parses its text.  A path that leads nowhere is told apart from a
file that cannot be read.
-/

namespace FormTemplate

inductive TemplateFault where
  | notFound (path : String)
  | unreadable (path : String) (cause : FileFault)
  deriving DecidableEq

namespace TemplateFault

def message : TemplateFault → String
  | notFound path => "template not found: " ++ path
  | unreadable path cause => "failed to read template file " ++ path ++ ": " ++ cause.message

end TemplateFault

namespace Dialect

/-- The catalog of the template in a file. -/
def load (d : Dialect) (fs : Files) (path : String) : Except TemplateFault Catalog :=
  if !fs.contains path then .error (.notFound path)
  else
    match fs.read path with
    | .ok content => .ok (d.parse content)
    | .error cause => .error (.unreadable path cause)

end Dialect
end FormTemplate
