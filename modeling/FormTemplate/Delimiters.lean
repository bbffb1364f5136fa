import FormTemplate.Pattern

/-!
# Delimiters — the marks around and inside placeholders

A deployment chooses an opening and a closing delimiter and the separator of the segments between
them.  None of the three is empty, and placeholders are found by a pattern, so that there has to be
one for the two delimiters.

* `Delimiters.patternText` — the pattern of placeholders in the notation of patterns;
* `Delimiters.make` — the delimiters that are made of three texts, or why there are none.
-/

namespace FormTemplate

structure Delimiters where
  opening : List Char
  closing : List Char
  separator : List Char
  opening_ne : opening ≠ []
  closing_ne : closing ≠ []
  separator_ne : separator ≠ []
  deriving DecidableEq

/-- The delimiter that is empty. -/
inductive EmptyDelimiter where
  | opening
  | closing
  | separator
  deriving DecidableEq

namespace EmptyDelimiter

def message : EmptyDelimiter → String
  | opening => "opening delimiter must not be empty"
  | closing => "closing delimiter must not be empty"
  | separator => "separator must not be empty"

end EmptyDelimiter

/-- Why three texts are no delimiters. -/
inductive DelimiterFault where
  | empty (which : EmptyDelimiter)
  /-- The pattern of placeholders is not usable. -/
  | pattern (fault : PatternFault)
  deriving DecidableEq

namespace DelimiterFault

def message : DelimiterFault → String
  | empty which => which.message
  | pattern fault => "invalid regex for template placeholder: " ++ fault.message

end DelimiterFault

namespace Delimiters

/-- The shortest body of at least one character on one line, with blanks around it. -/
def bodyText : List Char :=
  ['\\', 's', '*', '(', '.', '+', '?', ')', '\\', 's', '*']

/-- A body between the two delimiters as they are written. -/
def patternText (opening closing : String) : String :=
  String.ofList (Pattern.quote opening.toList ++ bodyText ++ Pattern.quote closing.toList)

def make (opening closing separator : String) : Except DelimiterFault Delimiters :=
  if ho : opening.toList = [] then .error (.empty .opening)
  else if hc : closing.toList = [] then .error (.empty .closing)
  else if hs : separator.toList = [] then .error (.empty .separator)
  else
    match Pattern.compile (patternText opening closing) with
    | .error fault => .error (.pattern fault)
    | .ok _ => .ok ⟨opening.toList, closing.toList, separator.toList, ho, hc, hs⟩

def defaultOpening : String := "\x7b\x7b"

def defaultClosing : String := "\x7d\x7d"

def defaultSeparator : String := ":"

/-- Double braces, and colons between segments. -/
def standard : Delimiters where
  opening := ['{', '{']
  closing := ['}', '}']
  separator := [':']
  opening_ne := by simp
  closing_ne := by simp
  separator_ne := by simp

end Delimiters
end FormTemplate
