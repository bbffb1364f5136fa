import FormTemplate.Proofs.Catalog.Precedence
import FormTemplate.Proofs.Text.Cutting

/-!
# JoinedRules — rules in one list or in two

A rule list is cut at its commas, so a comma more between two lists makes one list of them, whatever
stands at the seam: no token is cut in two or grows together with another.  A declaration has room for
two lists, in its third and its fourth segment.  Since its type is settled before the first rule is
applied, it does not matter for a variable that is no choice how its rules are spread over them.

* `Rule.parseList_append`, `Rule.parseList_trim` — what two joined lists say, and that blanks around a
  list say nothing;
* `Expression.rules_eq_append`, `Expression.rules_eq` — the rules of an expression from its pieces,
  with blank segments, which count as absent;
* `Variable.declare_eq_settled` — a variable that is no choice, from its rules;
* `joined_rules` — lists, variables and declarations.
-/

namespace FormTemplate

/-! ## Lists -/

namespace Rule

theorem parseList_append (a b : List Char) :
    parseList (a ++ ',' :: b) = parseList a ++ parseList b := by
  rw [parseList, Text.commaList_append, List.filterMap_append, parseList, parseList]

theorem parseList_trim (t : List Char) : parseList (Text.trim t) = parseList t := by
  obtain ⟨before, after, hbefore, hafter, ht⟩ := Text.exists_trim t
  have hpadded := Text.commaList_padded hbefore hafter (t := Text.trim t)
  rw [← ht] at hpadded
  rw [parseList, parseList, hpadded]

end Rule

theorem Variable.applyRules_append (v : Variable) (a b : List Char) :
    v.applyRules (a ++ ',' :: b) = (v.applyRules a).applyRules b := by
  rw [applyRules, Rule.parseList_append, List.foldl_append, applyRules, applyRules]

/-! ## Segments -/

namespace Expression

variable {sep t name type : List Char} {a b : List Char}

/-- A blank segment has no rules, as little as one that is absent. -/
theorem parseList_segment (s : List Char) :
    ((some (Text.trim s)).filter fun s => !s.isEmpty).elim [] Rule.parseList =
      Rule.parseList s := by
  rw [← Rule.parseList_trim s]
  cases Text.trim s <;> rfl

theorem rules_of_ne_select {field : FieldType} (h : field ≠ .select) (e : Expression) :
    e.rules field =
      e.optionsOrRules.elim [] Rule.parseList ++ e.extraRules.elim [] Rule.parseList := by
  rw [rules, if_neg h]

theorem rules_eq_append (h : Text.pieces maxSegments sep t = [name, type, a, b])
    {field : FieldType} (hfield : field ≠ .select) :
    (parse sep t).rules field = Rule.parseList a ++ Rule.parseList b := by
  rw [rules_of_ne_select hfield, ← parseList_segment a, ← parseList_segment b, parse, h]
  rfl

theorem rules_eq (h : Text.pieces maxSegments sep t = [name, type, a]) {field : FieldType}
    (hfield : field ≠ .select) : (parse sep t).rules field = Rule.parseList a := by
  rw [rules_of_ne_select hfield, ← parseList_segment a, parse, h]
  exact List.append_nil _

end Expression

/-! ## Declarations -/

namespace Variable

variable {l : Lexicon} {e e' : Expression}

/-- Unless it is a choice, all rules of both segments are applied, and then nothing but the last step
is left. -/
theorem declare_eq_settled (h : l.declaredType e ≠ .select) :
    declare l e =
      ((e.rules (l.declaredType e)).foldl applyRule (start l e)).settleChoices.refreshHint := by
  rcases withOptionsOrRules_cases e.optionsOrRules (start l e) with ⟨hselect, -⟩ | ⟨-, hrules⟩
  · exact absurd (type_start l e ▸ hselect) h
  · rw [declare_eq_start, hrules, withExtraRules_eq, withExtraRules_eq, ← List.foldl_append,
      Expression.rules_of_ne_select h]

/-- Declarations with the same name, the same second segment and the same rules. -/
theorem declare_congr (hname : e.name = e'.name) (htype : e.explicitType = e'.explicitType)
    (h : l.declaredType e ≠ .select)
    (hrules : e.rules (l.declaredType e) = e'.rules (l.declaredType e)) :
    declare l e = declare l e' := by
  have hstart : start l e = start l e' := by
    rw [start, start, hname, htype]
  have hdeclared : l.declaredType e = l.declaredType e' := by
    rw [← type_start, ← type_start, hstart]
  rw [declare_eq_settled h, declare_eq_settled (hdeclared ▸ h), hrules, hstart, hdeclared]

end Variable

/-- A comma between two rule lists makes one list of them, which says what both say and does to any
variable what they do one after the other.  So in a declaration that is no choice while its rules are
applied, two lists in the third and the fourth segment have the effect of a single one in the third,
be the segments given or cut from a text. -/
theorem joined_rules (a b : List Char) :
    Rule.parseList (a ++ ',' :: b) = Rule.parseList a ++ Rule.parseList b ∧
      (∀ v : Variable, v.applyRules (a ++ ',' :: b) = (v.applyRules a).applyRules b) ∧
      (∀ (l : Lexicon) (e : Expression), l.declaredType e ≠ .select →
        Variable.declare l { e with optionsOrRules := some a, extraRules := some b } =
          Variable.declare l { e with optionsOrRules := some (a ++ ',' :: b), extraRules := none }) ∧
      ∀ (l : Lexicon) (sep name type s t : List Char),
        Text.pieces Expression.maxSegments sep s = [name, type, a, b] →
        Text.pieces Expression.maxSegments sep t = [name, type, a ++ ',' :: b] →
        l.declaredType (Expression.parse sep s) ≠ .select →
          Variable.declare l (Expression.parse sep s) =
            Variable.declare l (Expression.parse sep t) := by
  have happend := Rule.parseList_append a b
  refine ⟨happend, fun v => v.applyRules_append a b, ?_, ?_⟩
  · intro l e htype
    have hrules := Expression.rules_of_ne_select htype
    apply Variable.declare_congr
    · rfl
    · rfl
    · exact htype
    · refine (hrules _).trans (Eq.trans ?_ (hrules _).symm)
      simp [happend]
  · intro l sep name type s t hs ht htype
    apply Variable.declare_congr
    · simp [Expression.parse, hs, ht]
    · simp [Expression.parse, Expression.segment?, hs, ht]
    · exact htype
    · rw [Expression.rules_eq_append hs htype, Expression.rules_eq ht htype, happend]

/-- An empty token at the end of the first list, and a malformed one at the start of the second. -/
theorem joined_rules_seam :
    let s := "n:number:min=1,: max ,required".toList
    let t := "n:number:min=1,, max ,required".toList
    Variable.declare .builtin (Expression.parse [':'] s) =
        Variable.declare .builtin (Expression.parse [':'] t) ∧
      (Variable.declare .builtin (Expression.parse [':'] s)).required = true := by
  intro s t
  obtain ⟨-, -, -, hdeclare⟩ := joined_rules "min=1,".toList " max ,required".toList
  refine ⟨hdeclare .builtin [':'] "n".toList "number".toList s t ?_ ?_ ?_, ?_⟩ <;> decide +kernel

end FormTemplate
