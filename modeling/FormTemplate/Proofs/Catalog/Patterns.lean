import FormTemplate.Lexicon.Builtin
import FormTemplate.Proofs.Catalog.Index
import FormTemplate.Proofs.Catalog.Rules
import FormTemplate.Proofs.Catalog.Segments
import FormTemplate.Proofs.Placeholder.Assembly

/-!
# Patterns — a pattern that a template declares

A pattern is written in the last segment of a placeholder, so colons in it do no harm, and in the
last part of its rule, so equals signs do none.  What it must not have is a comma, a line end, blanks
at its end, and anything that a closing delimiter can start in.

* `Variable.validation_declare` — the constraints of a field that is no choice are those of its
  rules;
* `closing_once_standard` — the closing delimiter comes where it is written, save after a brace;
* `pattern_parse_iff` — so a pattern is declared as it is written, save one that ends with a brace.
-/

namespace FormTemplate

open Text (Trimmed isBlank)

/-! ## Constraints of a field that is no choice -/

namespace Variable

variable {l : Lexicon} {v : Variable}

/-- Both rule lists of a declaration count if its type segment names a type that is no choice, and
no choices belong to its name. -/
theorem validation_declare {name token : List Char} {rules extra : Option (List Char)}
    {type : FieldType} (htype : l.explicitType? token = some type) (hchoice : type ≠ .select)
    (hoptions : l.optionsFor? (String.ofList name) = none) :
    (declare l ⟨name, some token, rules, extra⟩).validation =
      ((((new (String.ofList name) (l.labelFor (String.ofList name))
        (l.inferType (String.ofList name))).setType type).withExtraRules rules).withExtraRules
          extra).validation := by
  have hnames : ∀ v : Variable, v.name = String.ofList name → v.withNameOptions l = v := by
    intro v hv
    rw [withNameOptions, hv, hoptions]
  have hrules : ∀ v : Variable, v.type = type →
      v.withOptionsOrRules rules = v.withExtraRules rules := by
    intro v hv
    rcases withOptionsOrRules_cases rules v with ⟨hselect, -⟩ | ⟨-, hrules⟩
    · exact absurd (hv.symm.trans hselect) hchoice
    · exact hrules
  unfold declare
  rw [refreshHint]
  simp only [validation_settleChoices, withExplicitType, Option.bind_some, htype]
  rw [hnames _ rfl, hrules _ rfl]

end Variable

/-! ## A placeholder with a pattern -/

/-- The closing delimiter starts nowhere in a body without it, save at a brace in the end. -/
theorem closing_once_standard {body : List Char} (hclosing : ¬ ['}', '}'] <:+: body)
    (hlast : body.getLast? ≠ some '}') {k : Nat} (hk : k < body.length) :
    ¬ ['}', '}'] <+: (body ++ ['}', '}']).drop k := by
  rw [List.drop_append_of_le_length hk.le]
  intro hstart
  have htake := List.take_append_drop k body
  -- what is left of the body has no character, is its last one, or has at least two
  cases hdrop : body.drop k with
  | nil =>
      have hlen := List.drop_eq_nil_iff.1 hdrop
      omega
  | cons c y =>
      rw [hdrop] at hstart htake
      cases y with
      | nil =>
          have hc : c = '}' := by
            simpa [eq_comm] using hstart
          rw [← htake, hc, List.getLast?_concat] at hlast
          exact hlast rfl
      | cons e y =>
          have hce : '}' = c ∧ '}' = e := by
            simpa using hstart
          rcases hce with ⟨rfl, rfl⟩
          exact hclosing ⟨body.take k, y, by simpa using htake⟩

/-- A required text with a pattern, as it is written between the delimiters. -/
def codePattern (p : List Char) : List Char :=
  ['c', 'o', 'd', 'e'] ++ ':' :: (['t', 'e', 'x', 't'] ++ ':' ::
    (['r', 'e', 'q', 'u', 'i', 'r', 'e', 'd'] ++ ':' :: (Rule.patternKey ++ '=' :: p)))

section Body

variable {p : List Char}

theorem getLast?_codePattern (hne : p ≠ []) : (codePattern p).getLast? = p.getLast? := by
  have hfront : codePattern p = codePattern [] ++ p := rfl
  rw [hfront, List.getLast?_append_of_ne_nil _ hne]

theorem wellFormed_codePattern (hne : p ≠ []) (hline : '\n' ∉ p)
    (hclosing : ¬ ['}', '}'] <:+: p) (hlast : ∀ c ∈ p.getLast?, isBlank c = false)
    (hbrace : p.getLast? ≠ some '}') :
    Hole.WellFormed .standard ⟨[], codePattern p, []⟩ := by
  -- there is no brace in front of the pattern
  have hinside : ¬ ['}', '}'] <:+: codePattern p := by
    simpa [codePattern, Rule.patternKey, List.infix_cons_iff] using hclosing
  constructor
  case before_blank => rfl
  case body_ne => simp [codePattern]
  case body_trimmed =>
    refine ⟨?_, ?_⟩
    · rintro c ⟨⟩
      rfl
    · rw [getLast?_codePattern hne]
      exact hlast
  case body_line => simpa [codePattern, Rule.patternKey] using hline
  case after_blank => rfl
  case closing_once =>
    intro k _ hk
    rw [← getLast?_codePattern hne] at hbrace
    simp only [List.append_nil]
    exact closing_once_standard hinside hbrace hk

/-- A closing delimiter that starts at a brace in the end of the pattern would end the placeholder
before it. -/
theorem getLast?_ne_of_hole? {t rest : List Char} {h : Hole}
    (hfound : hole? .standard t = some (h, rest))
    (hraw : h.raw .standard = Hole.raw .standard ⟨[], codePattern p, []⟩) (hne : p ≠ []) :
    p.getLast? ≠ some '}' := by
  intro hbrace
  rcases List.getLast?_eq_some_iff.1 hbrace with ⟨q, rfl⟩
  have hinner : h.inner = 'c' :: (codePattern q).tail ++ ([] ++ ['}']) := by
    have htext : codePattern (q ++ ['}']) = 'c' :: (codePattern q).tail ++ ([] ++ ['}']) := rfl
    rw [← htext]
    have hcut := List.append_cancel_left (List.append_cancel_right hraw)
    simpa [Hole.inner] using hcut
  refine not_isPrefix_closing_of_inner hfound hinner (by rfl) (by rfl) ?_
  exact ⟨'}' :: rest, rfl⟩

theorem parse_codePattern (hne : p ≠ []) (hlast : ∀ c ∈ p.getLast?, isBlank c = false) :
    Expression.parse Delimiters.standard.separator (codePattern p) =
      ⟨['c', 'o', 'd', 'e'], some ['t', 'e', 'x', 't'],
        some ['r', 'e', 'q', 'u', 'i', 'r', 'e', 'd'], some (Rule.patternKey ++ '=' :: p)⟩ := by
  have hrule := Rule.trimmed_append_equals Rule.trimmed_patternKey (by decide) hne hlast
  have hjoin : codePattern p = Text.join Delimiters.standard.separator
      [['c', 'o', 'd', 'e'], ['t', 'e', 'x', 't'], ['r', 'e', 'q', 'u', 'i', 'r', 'e', 'd'],
        Rule.patternKey ++ '=' :: p] := rfl
  rw [hjoin]
  refine Expression.parse_join Delimiters.standard.separator_ne ?_ ?_ ?_
  · intro s hs
    refine Text.startsNowhere_singleton ?_ _
    revert s
    decide
  · simp only [List.mem_cons, List.not_mem_nil, or_false, forall_eq_or_imp, forall_eq]
    refine ⟨?_, ?_, ?_, hrule⟩ <;> constructor <;> (rintro c ⟨⟩; rfl)
  · simp

theorem validation_codePattern (hne : p ≠ []) (hcomma : ',' ∉ p)
    (hlast : ∀ c ∈ p.getLast?, isBlank c = false) :
    (Variable.declare .builtin
      (Expression.parse Delimiters.standard.separator (codePattern p))).validation =
        some { pattern := some (String.ofList p) } := by
  have htype : Lexicon.builtin.explicitType? ['t', 'e', 'x', 't'] = some .text := by
    decide
  have hoptions : Lexicon.builtin.optionsFor? (String.ofList ['c', 'o', 'd', 'e']) = none := by
    decide
  have hrequired : Rule.parseList ['r', 'e', 'q', 'u', 'i', 'r', 'e', 'd'] = [.required] := by
    decide
  rw [parse_codePattern hne hlast, Variable.validation_declare htype (by decide) hoptions]
  simp only [Variable.withExtraRules, Variable.applyRules, hrequired,
    Rule.parseList_pattern hne hcomma hlast]
  rfl

/-! ## Declared patterns -/

theorem placeholders_codePattern_append {content : String} {rest : List Char}
    (hp : Hole.WellFormed .standard ⟨[], codePattern p, []⟩)
    (hrest : Text.StartsNowhere ['{', '{'] rest [])
    (htext : content.toList = Hole.raw .standard ⟨[], codePattern p, []⟩ ++ rest) :
    placeholders .standard content =
      [⟨0, Text.utf8Length (Hole.raw .standard ⟨[], codePattern p, []⟩),
        String.ofList (Hole.raw .standard ⟨[], codePattern p, []⟩),
        String.ofList (codePattern p)⟩] := by
  -- a template that is assembled from one placeholder, with no text in front of it
  have hgaps : GapsUnopened .standard rest [⟨[], ⟨[], codePattern p, []⟩⟩] :=
    ⟨Text.startsNowhere_nil _ _, hrest⟩
  have hlocate := locate_scan_assemble trimmed_closing_standard.head hgaps (by simpa using hp) 0
  simpa [placeholders, htext, assemble, assembled] using hlocate

theorem entries_codePattern {content : String} {start stop : Nat} {raw : String} (hne : p ≠ [])
    (hlast : ∀ c ∈ p.getLast?, isBlank c = false)
    (hplaceholders : placeholders .standard content =
      [⟨start, stop, raw, String.ofList (codePattern p)⟩]) :
    (Catalog.parse .standard .builtin content).entries =
      [Variable.declare .builtin
        (Expression.parse Delimiters.standard.separator (codePattern p))] := by
  rw [(Catalog.reads_parse .standard .builtin content).entries, declarations, hplaceholders]
  simp [Placeholder.declaration, parse_codePattern hne hlast, named, firstOfEachName]

end Body

/-- A pattern without commas, line ends and closing delimiters and without blanks in the end is
declared as it is written, by a placeholder that is all of the template, exactly if it does not end
with a brace. -/
theorem pattern_parse_iff (P : String) (hne : P ≠ "") (hcomma : ',' ∉ P.toList)
    (hline : '\n' ∉ P.toList) (hclosing : ¬ ['}', '}'] <:+: P.toList)
    (hlast : ∀ c ∈ P.toList.getLast?, isBlank c = false) :
    let content := "\x7b\x7bcode:text:required:pattern=" ++ P ++ "\x7d\x7d"
    ((∃ v c, (Catalog.parse .standard .builtin content).entries = [v] ∧ v.name = "code" ∧
        v.validation = some c ∧ c.pattern = some P) ∧
      ∃ expression, placeholders .standard content =
        [⟨0, Text.utf8Length content.toList, content, expression⟩]) ↔
      P.toList.getLast? ≠ some '}' := by
  intro content
  have hne' : P.toList ≠ [] := by
    simpa using hne
  -- the template is a single placeholder without padding
  have htext : content.toList = Hole.raw .standard ⟨[], codePattern P.toList, []⟩ := by
    simp [content, codePattern, Rule.patternKey, Hole.raw, Hole.inner, Delimiters.standard]
  constructor
  · rintro ⟨-, expression, hwhole⟩
    rcases exists_hole?_of_mem_placeholders (hwhole ▸ List.mem_singleton_self _) with
      ⟨h, s, rest, hfound, hraw, -⟩
    exact getLast?_ne_of_hole? hfound (hraw.symm.trans htext) hne'
  · intro hbrace
    have hp := wellFormed_codePattern hne' hline hclosing hlast hbrace
    have hplaceholders := placeholders_codePattern_append hp (Text.startsNowhere_nil _ _)
      (htext.trans (List.append_nil _).symm)
    have hentries := entries_codePattern hne' hlast hplaceholders
    rw [← htext, String.ofList_toList] at hplaceholders
    refine ⟨⟨_, _, hentries, ?_, validation_codePattern hne' hcomma hlast, ?_⟩, _, hplaceholders⟩
    · rw [Variable.name_declare, parse_codePattern hne' hlast]
    · rw [String.ofList_toList]

/-- Braces and colons inside a pattern. -/
theorem pattern_parse_time :
    let P := "^[0-9]\x7b2\x7d:[0-9]\x7b2\x7d$"
    let content := "\x7b\x7bcode:text:required:pattern=" ++ P ++ "\x7d\x7d"
    (∃ v c, (Catalog.parse .standard .builtin content).entries = [v] ∧ v.name = "code" ∧
        v.validation = some c ∧ c.pattern = some P) ∧
      ∃ expression, placeholders .standard content =
        [⟨0, Text.utf8Length content.toList, content, expression⟩] := by
  intro P
  have hlast : P.toList.getLast? = some '$' := by
    decide
  refine (pattern_parse_iff P (by decide) (by decide) (by decide) (by decide) ?_).2 ?_
  · intro c hc
    cases hlast.symm.trans hc
    rfl
  · rw [hlast]
    decide

/-- The brace in the end of a pattern is taken for one of the closing delimiter. -/
theorem pattern_parse_brace :
    let P := "\\d\x7b2\x7d"
    let content := "\x7b\x7bcode:text:required:pattern=" ++ P ++ "\x7d\x7d"
    (P ≠ "" ∧ ',' ∉ P.toList ∧ '\n' ∉ P.toList ∧ ¬ ['}', '}'] <:+: P.toList ∧
        P.toList.getLast? = some '}') ∧
      (placeholders .standard content).map Placeholder.raw =
        ["\x7b\x7bcode:text:required:pattern=\\d\x7b2\x7d\x7d"] ∧
      (Catalog.parse .standard .builtin content).entries.map Variable.validation =
        [some { pattern := some "\\d\x7b2" }] := by
  intro P content
  let p := ['\\', 'd', '{', '2']
  have hne : p ≠ [] := by
    decide
  have hlast : ∀ c ∈ p.getLast?, isBlank c = false := by
    rintro c ⟨⟩
    rfl
  have hp := wellFormed_codePattern hne (by decide) (by decide) hlast (by decide)
  have hrest : Text.StartsNowhere ['{', '{'] ['}'] [] := by
    simp [Text.startsNowhere_cons, Text.startsNowhere_nil]
  have htext : content.toList = Hole.raw .standard ⟨[], codePattern p, []⟩ ++ ['}'] := by
    decide
  have hplaceholders := placeholders_codePattern_append hp hrest htext
  have hentries := entries_codePattern hne hlast hplaceholders
  refine ⟨by decide, ?_, ?_⟩
  · rw [hplaceholders]
    rfl
  · rw [hentries, List.map_singleton, validation_codePattern hne (by decide) hlast]

end FormTemplate
