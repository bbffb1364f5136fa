import FormTemplate.Unicode.Age
import FormTemplate.Unicode.Break
import FormTemplate.Unicode.ScriptExtension

/-!
# Lookup — sets of characters by the names of properties

A name stands for a binary property, a general category or group of categories, or a script, looked
for in this order.  With a value it stands for a property that is not binary, and for the characters
that have the value.  Case, blanks, hyphens, underscores and a leading `is` do not matter.
-/

namespace FormTemplate
namespace Unicode

/-! ## Names -/

/-- The part of a name that counts. -/
def plainName (name : List Char) : List Char :=
  let (isLeft, rest) :=
    match name with
    | a :: b :: t => if a.toLower = 'i' && b.toLower = 's' then (true, t) else (false, name)
    | t => (false, t)
  let plain := (rest.filter fun c => c.toNat < 0x80 && c != ' ' && c != '_' && c != '-').map
    Char.toLower
  if isLeft && plain = ['c'] then ['i', 's', 'c'] else plain

def isNamed (names : List String) (plain : List Char) : Bool :=
  names.any fun n => plainName n.toList = plain

/-! ## Categories -/

namespace Category

def letters : List Category :=
  [uppercaseLetter, lowercaseLetter, titlecaseLetter, modifierLetter, otherLetter]

/-- The names of the categories and of the groups of them. -/
def named : List (List String × List Category) :=
  [(["Lu", "Uppercase_Letter"], [uppercaseLetter]),
   (["Ll", "Lowercase_Letter"], [lowercaseLetter]),
   (["Lt", "Titlecase_Letter"], [titlecaseLetter]),
   (["LC", "Cased_Letter"], [uppercaseLetter, lowercaseLetter, titlecaseLetter]),
   (["Lm", "Modifier_Letter"], [modifierLetter]),
   (["Lo", "Other_Letter"], [otherLetter]),
   (["L", "Letter"], letters),
   (["Mn", "Nonspacing_Mark"], [nonspacingMark]),
   (["Mc", "Spacing_Mark"], [spacingMark]),
   (["Me", "Enclosing_Mark"], [enclosingMark]),
   (["M", "Mark", "Combining_Mark"], [nonspacingMark, spacingMark, enclosingMark]),
   (["Nd", "Decimal_Number", "digit"], [decimalNumber]),
   (["Nl", "Letter_Number"], [letterNumber]),
   (["No", "Other_Number"], [otherNumber]),
   (["N", "Number"], [decimalNumber, letterNumber, otherNumber]),
   (["Pc", "Connector_Punctuation"], [connectorPunctuation]),
   (["Pd", "Dash_Punctuation"], [dashPunctuation]),
   (["Ps", "Open_Punctuation"], [openPunctuation]),
   (["Pe", "Close_Punctuation"], [closePunctuation]),
   (["Pi", "Initial_Punctuation"], [initialPunctuation]),
   (["Pf", "Final_Punctuation"], [finalPunctuation]),
   (["Po", "Other_Punctuation"], [otherPunctuation]),
   (["P", "Punctuation", "punct"],
     [connectorPunctuation, dashPunctuation, openPunctuation, closePunctuation,
      initialPunctuation, finalPunctuation, otherPunctuation]),
   (["Sm", "Math_Symbol"], [mathSymbol]),
   (["Sc", "Currency_Symbol"], [currencySymbol]),
   (["Sk", "Modifier_Symbol"], [modifierSymbol]),
   (["So", "Other_Symbol"], [otherSymbol]),
   (["S", "Symbol"], [mathSymbol, currencySymbol, modifierSymbol, otherSymbol]),
   (["Zs", "Space_Separator"], [spaceSeparator]),
   (["Zl", "Line_Separator"], [lineSeparator]),
   (["Zp", "Paragraph_Separator"], [paragraphSeparator]),
   (["Z", "Separator"], [spaceSeparator, lineSeparator, paragraphSeparator]),
   (["Cc", "Control", "cntrl"], [control]),
   (["Cf", "Format"], [format]),
   (["Co", "Private_Use"], [privateUse]),
   (["Cn", "Unassigned"], [unassigned]),
   (["C", "Other"], [control, format, privateUse, unassigned])]

end Category

/-- The characters of a general category, of a group, or of one of three wider classes. -/
def categorySet? (plain : List Char) : Option CharSet :=
  if plain = "any".toList then some CharSet.all
  else if plain = "assigned".toList then some (Category.set .unassigned).compl
  else if plain = "ascii".toList then some ⟨[⟨0, 0x7F⟩]⟩
  else (Category.named.find? fun row => isNamed row.1 plain).map fun row => Category.union row.2

/-! ## Scripts and properties -/

def scriptSet? (plain : List Char) : Option CharSet :=
  (Script.all.find? fun s => isNamed s.names plain).map Script.set

/-- The characters of the row with a name. -/
def rowSet? (rows : List Property) (plain : List Char) : Option CharSet :=
  (rows.find? fun p => isNamed p.names plain).map Property.set

def propertySet? (plain : List Char) : Option CharSet :=
  rowSet? Property.all plain

/-- The characters of a class named on its own. -/
def classSet? (name : List Char) : Option CharSet :=
  let plain := plainName name
  ((propertySet? plain).or (categorySet? plain)).or (scriptSet? plain)

/-! ## Values of properties -/

/-- The characters used in a script. -/
def scriptExtensionSet? (plain : List Char) : Option CharSet :=
  (Script.all.find? fun s => isNamed s.names plain).map Script.extendedSet

/-- The characters assigned up to a version, those of earlier versions included. -/
def ageSet? (plain : List Char) : Option CharSet :=
  (Age.all.findIdx? fun a => isNamed a.names plain).map fun i => Age.union (Age.all.take (i + 1))

/-- The properties that are not binary: their names and the characters of a value, by its name. -/
def valuedProperties : List (List String × (List Char → Option CharSet)) :=
  [(["General_Category", "gc", "Category"], categorySet?),
   (["Script", "sc"], scriptSet?),
   (["Script_Extensions", "scx"], scriptExtensionSet?),
   (["Age"], ageSet?),
   (["Grapheme_Cluster_Break", "GCB"], rowSet? Property.graphemeBreaks),
   (["Word_Break", "WB"], rowSet? Property.wordBreaks),
   (["Sentence_Break", "SB"], rowSet? Property.sentenceBreaks)]

/-- The characters for which a property has a value, both given by name. -/
def valueSet? (property value : List Char) : Option CharSet :=
  (valuedProperties.find? fun row => isNamed row.1 (plainName property)).bind fun row =>
    row.2 (plainName value)

end Unicode
end FormTemplate
