import FormTemplate.Proofs.Catalog.Index
import FormTemplate.Proofs.Catalog.Rules
import FormTemplate.Proofs.Placeholder.Lines

/-!
# WellFormed — what holds of every variable in a catalog

The type of a variable changes up to four times while it is declared, and its choices, its default
and its hint are set in between.  What is left in the end fits together, whatever the lexicon says.

* `Variable.WellFormed` — name, label, choices, hint, constraints and default of a variable agree
  with each other and with its type;
* `Expression.isInfix_name_parse`, `Expression.not_isInfix_name_parse` — the name is a part of the
  expression, and the separator is no part of the name;
* `Variable.ruled_declare` — rules are read after the type is settled, save for choices that turn
  into text;
* `wellFormed_parse` — every variable of every catalog is well formed.
-/

namespace FormTemplate

open Text (Trimmed)

variable {d : Delimiters}

/-- The parts of a variable agree with each other and with its type. -/
structure Variable.WellFormed (d : Delimiters) (v : Variable) : Prop where
  name_ne : v.name ≠ ""
  name_trimmed : Trimmed v.name.toList
  name_line : '\n' ∉ v.name.toList
  name_separator : ¬ d.separator <:+: v.name.toList
  label_ne : v.label ≠ ""
  options_iff : v.options ≠ [] ↔ v.type = .select
  hint_eq : v.hint = v.type.hint v.label
  constrained : ∀ c, v.validation = some c →
    c.min ≠ none ∨ c.max ≠ none ∨ c.pattern ≠ none ∨ c.message ≠ none
  default_of : ∀ x, v.default = some x → Value.DefaultOf v.type x

/-! ## Names -/

namespace Expression

/-- The name is the first of the pieces that the separator cuts the expression into. -/
theorem name_parse {separator : List Char} (hsep : separator ≠ []) (t : List Char) :
    (parse separator t).name = Text.trim ((Text.cut separator maxSegments t).headD []) := by
  rw [parse, Text.pieces_of_ne_nil hsep]
  cases Text.cut separator maxSegments t <;> rfl

theorem trimmed_name_parse {separator : List Char} (hsep : separator ≠ []) (t : List Char) :
    Trimmed (parse separator t).name := by
  rw [name_parse hsep]
  exact Text.trimmed_trim _

theorem isInfix_name_parse {separator : List Char} (hsep : separator ≠ []) (t : List Char) :
    (parse separator t).name <:+: t := by
  rw [name_parse hsep]
  exact (Text.isInfix_trim _).trans (Text.isPrefix_headD_cut 2 t).isInfix

theorem not_isInfix_name_parse {separator : List Char} (hsep : separator ≠ []) (t : List Char) :
    ¬ separator <:+: (parse separator t).name := by
  intro hinside
  rw [name_parse hsep] at hinside
  exact Text.not_isInfix_headD_cut hsep 2 t (hinside.trans (Text.isInfix_trim _))

end Expression

/-! ## Declared variables -/

namespace Variable

variable {l : Lexicon} {v : Variable}

namespace Ruled

theorem withExtraRules (h : v.Ruled) (segment : Option (List Char)) :
    (v.withExtraRules segment).Ruled := by
  cases segment with
  | none => exact h
  | some t => exact h.applyRules t

theorem withOptionsOrRules (h : v.Ruled) (segment : Option (List Char)) :
    (v.withOptionsOrRules segment).Ruled := by
  rcases v.withOptionsOrRules_cases segment with ⟨-, choices, hv⟩ | ⟨-, hv⟩
  · rw [hv]
    exact ⟨h.constrained, h.default_of⟩
  · rw [hv]
    exact h.withExtraRules segment

theorem settleChoices (h : v.Ruled) : v.settleChoices.Ruled := by
  rcases v.settleChoices_cases with ⟨-, -, hv⟩ | ⟨htype, hv⟩ | ⟨-, hv⟩
  · rw [hv]
    exact h
  · -- the default was one of a choice, and is one of a text
    have htext : ∀ x, v.default = some x → Value.DefaultOf .text x := by
      intro x hx
      have hof := h.default_of x hx
      rw [htype] at hof
      exact hof.text_of_select
    rw [hv]
    exact ⟨h.constrained, htext⟩
  · rw [hv]
    exact ⟨h.constrained, h.default_of⟩

end Ruled

/-- Neither the type nor the choices of a name bring rules along. -/
theorem ruled_withNameOptions (name label : String) (type : FieldType)
    (token : Option (List Char)) :
    (((new name label type).withExplicitType l token).withNameOptions l).Ruled := by
  rcases withExplicitType_eq (l := l) token (new name label type) with ⟨explicit, htype⟩
  rw [htype]
  rcases withNameOptions_cases (l := l) ((new name label type).setType explicit) with
    hv | ⟨choices, hv⟩
  · rw [hv]
    exact ruled_of_none rfl rfl
  · rw [hv]
    exact ruled_of_none rfl rfl

theorem ruled_declare (l : Lexicon) (e : Expression) : (declare l e).Ruled := by
  have hnamed := ruled_withNameOptions (l := l) (String.ofList e.name)
    (l.labelFor (String.ofList e.name)) (l.inferType (String.ofList e.name)) e.explicitType
  have hruled := (hnamed.withOptionsOrRules e.optionsOrRules).withExtraRules e.extraRules
  have hsettled := hruled.settleChoices
  -- the hint comes last and changes neither constraints nor default
  exact ⟨hsettled.constrained, hsettled.default_of⟩

theorem options_settleChoices (v : Variable) :
    v.settleChoices.options ≠ [] ↔ v.settleChoices.type = .select := by
  rcases v.settleChoices_cases with ⟨htype, hoptions, hv⟩ | ⟨-, hv⟩ | ⟨htype, hv⟩
  · simp [hv, htype, hoptions]
  · simp [hv]
  · simp [hv, htype]

theorem label_declare_ne {e : Expression} (hname : e.name ≠ []) : (declare l e).label ≠ "" := by
  rw [label_declare]
  split
  case isTrue => simpa using hname
  case isFalse hlabel => simpa using hlabel

/-- A declaration with a name on one line makes a well-formed variable. -/
theorem wellFormed_declare (l : Lexicon) {t : List Char} (hline : '\n' ∉ t)
    (hname : (Expression.parse d.separator t).name ≠ []) :
    (declare l (Expression.parse d.separator t)).WellFormed d := by
  have hsep := d.separator_ne
  have hnamed : (declare l (Expression.parse d.separator t)).name.toList =
      (Expression.parse d.separator t).name := by
    rw [name_declare, String.toList_ofList]
  have hruled := ruled_declare l (Expression.parse d.separator t)
  constructor
  case name_ne =>
    rw [name_declare]
    simpa using hname
  case name_trimmed =>
    rw [hnamed]
    exact Expression.trimmed_name_parse hsep t
  case name_line =>
    rw [hnamed]
    exact fun hmem => hline ((Expression.isInfix_name_parse hsep t).mem hmem)
  case name_separator =>
    rw [hnamed]
    exact Expression.not_isInfix_name_parse hsep t
  case label_ne => exact label_declare_ne hname
  case options_iff => exact options_settleChoices _
  -- the hint is refreshed when nothing else changes any more
  case hint_eq => rfl
  case constrained =>
    intro c hc
    have hsome := hruled.constrained c hc
    simp only [Constraints.isEmpty, Bool.and_eq_false_iff, Option.isNone_eq_false_iff] at hsome
    simpa [Option.isSome_iff_ne_none, or_assoc] using hsome
  case default_of => exact hruled.default_of

end Variable

/-! ## Catalogs -/

/-- Whatever the delimiters and the lexicon are, the variables of a catalog are well formed. -/
theorem wellFormed_parse (d : Delimiters) (l : Lexicon) (content : String) :
    ∀ v ∈ (Catalog.parse d l content).entries, v.WellFormed d := by
  intro v hv
  rw [(Catalog.reads_parse d l content).entries] at hv
  -- the variable was made from the first declaration of its name, and that from a placeholder
  rcases List.mem_map.1 hv with ⟨e, he, rfl⟩
  rcases List.mem_filter.1 ((firstOfEachName_sublist _).mem he) with ⟨hdeclared, hname⟩
  rcases List.mem_map.1 hdeclared with ⟨p, hp, rfl⟩
  exact Variable.wellFormed_declare l (newline_notMem_expression_of_mem hp)
    (by simpa [Placeholder.declaration] using hname)

/-- A choice without choices, of a lexicon that leaves its label empty. -/
theorem wellFormed_parse_degraded :
    let l := Lexicon.empty.withLabel "level" ""
    let content := "\x7b\x7blevel:select::default=7\x7d\x7d"
    let v : Variable := ⟨"level", "level", .text, false, some (.string "7"), [], "请输入level", none⟩
    v ∈ (Catalog.parse .standard l content).entries ∧ v.WellFormed .standard := by
  intro l content v
  have hscan : scan .standard content.toList =
      [.hole ⟨[], ['l', 'e', 'v', 'e', 'l', ':', 's', 'e', 'l', 'e', 'c', 't', ':', ':',
        'd', 'e', 'f', 'a', 'u', 'l', 't', '=', '7'], []⟩] := by
    have htext : content.toList =
        ['{', '{', 'l', 'e', 'v', 'e', 'l', ':', 's', 'e', 'l', 'e', 'c', 't', ':', ':',
          'd', 'e', 'f', 'a', 'u', 'l', 't', '=', '7', '}', '}'] := by
      decide
    rw [htext, scan_of_some (by rfl), scan_nil]
  have hdeclarations : declarations .standard content =
      [⟨['l', 'e', 'v', 'e', 'l'], some ['s', 'e', 'l', 'e', 'c', 't'], none,
        some ['d', 'e', 'f', 'a', 'u', 'l', 't', '=', '7']⟩] := by
    rw [declarations, placeholders, hscan]
    rfl
  have hentries : (Catalog.parse .standard l content).entries = [v] := by
    rw [(Catalog.reads_parse .standard l content).entries, hdeclarations]
    rfl
  have hv : v ∈ (Catalog.parse .standard l content).entries := by
    rw [hentries]
    exact List.mem_singleton_self v
  exact ⟨hv, wellFormed_parse .standard l content v hv⟩

end FormTemplate
