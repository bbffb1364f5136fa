import Mathlib.Data.List.Induction
import FormTemplate.Catalog
import FormTemplate.Proofs.Placeholder.Pieces

/-!
# Declarations — what the placeholders of a template declare

The variables of a template, said without a loop: of the declarations with a name the first of each
name counts.

* `declarations` — what the placeholders of a template declare, in order;
* `firstOfEachName` — drops every declaration of a name that was declared before;
* `filter_firstOfEachName` — a choice among names can be made before or after that;
* `firstOfEachName_concat` — what one more declaration adds;
* `firstOfEachName_named_middle` — declarations of names that were declared before add nothing;
* `Variable.withOptionsOrRules_cases`, `Variable.settleChoices_cases` — what one stage of a
  declaration can do to a variable;
* `Variable.exists_foldl_applyRule` — what rules can do to it;
* `Variable.exists_rules_declare` — where the constraints of a variable come from;
* `Variable.name_declare`, `Variable.label_declare` — what a declared variable is called.
-/

namespace FormTemplate

variable {d : Delimiters} {l : Lexicon}

def declarations (d : Delimiters) (content : String) : List Expression :=
  (placeholders d content).map (Placeholder.declaration d)

/-- The declarations that have a name. -/
def named (es : List Expression) : List Expression :=
  es.filter fun e => !e.name.isEmpty

def firstOfEachName : List Expression → List Expression
  | [] => []
  | e :: es => e :: (firstOfEachName es).filter fun later => later.name != e.name

/-! ## The first declaration of each name -/

theorem filter_firstOfEachName (p : List Char → Bool) (es : List Expression) :
    (firstOfEachName es).filter (fun e => p e.name) =
      firstOfEachName (es.filter fun e => p e.name) := by
  induction es with
  | nil => rfl
  | cons e es ih =>
      by_cases he : p e.name
      · simp only [firstOfEachName, List.filter_cons, he, if_true, ← ih]
        rw [List.filter_filter, List.filter_filter]
        simp only [Bool.and_comm]
      · -- the other test of the filter is implied: a later name that passes `p` is not `e.name`
        simp only [firstOfEachName, List.filter_cons, he, if_false, ← ih, Bool.false_eq_true]
        rw [List.filter_filter]
        refine List.filter_congr ?_
        intro later _
        by_cases hname : later.name = e.name
        · simp [hname, he]
        · simp [hname]

theorem firstOfEachName_sublist (es : List Expression) : (firstOfEachName es).Sublist es := by
  induction es with
  | nil => exact List.Sublist.refl []
  | cons e es ih => exact (List.filter_sublist.trans ih).cons_cons e

theorem mem_map_name_firstOfEachName {n : List Char} {es : List Expression} :
    n ∈ (firstOfEachName es).map Expression.name ↔ n ∈ es.map Expression.name := by
  induction es with
  | nil => rfl
  | cons e es ih =>
      by_cases hn : n = e.name
      · simp [firstOfEachName, hn]
      · have hfilter : n ∈ ((firstOfEachName es).filter
              fun later => later.name != e.name).map Expression.name ↔
            n ∈ (firstOfEachName es).map Expression.name := by
          simp only [List.mem_map, List.mem_filter, bne_iff_ne]
          constructor
          · rintro ⟨a, ⟨ha, -⟩, rfl⟩
            exact ⟨a, ha, rfl⟩
          · rintro ⟨a, ha, rfl⟩
            exact ⟨a, ⟨ha, hn⟩, rfl⟩
        simp only [firstOfEachName, List.map_cons, List.mem_cons, hfilter, ih]

theorem nodup_map_name_firstOfEachName (es : List Expression) :
    ((firstOfEachName es).map Expression.name).Nodup := by
  induction es with
  | nil => exact List.nodup_nil
  | cons e es ih =>
      rw [firstOfEachName, List.map_cons, List.nodup_cons]
      constructor
      · simp [List.mem_map]
      · exact ih.sublist (List.Sublist.map _ List.filter_sublist)

theorem firstOfEachName_concat (es : List Expression) (e : Expression) :
    firstOfEachName (es ++ [e]) =
      firstOfEachName es ++ if e.name ∈ es.map Expression.name then [] else [e] := by
  induction es with
  | nil => rfl
  | cons x es ih =>
      simp only [List.cons_append, firstOfEachName, ih, List.filter_append, List.map_cons,
        List.mem_cons]
      by_cases hx : e.name = x.name
      · by_cases hes : e.name ∈ es.map Expression.name <;> simp [hx]
      · by_cases hes : e.name ∈ es.map Expression.name <;> simp [hx, hes]

theorem firstOfEachName_append {es later : List Expression}
    (h : ∀ e ∈ later, e.name ∈ es.map Expression.name) :
    firstOfEachName (es ++ later) = firstOfEachName es := by
  induction later using List.reverseRecOn with
  | nil => simp
  | append_singleton later e ih =>
      have hmem : e.name ∈ (es ++ later).map Expression.name := by
        have he := h e (by simp)
        simp only [List.map_append, List.mem_append]
        exact .inl he
      rw [← List.append_assoc, firstOfEachName_concat, if_pos hmem, List.append_nil]
      exact ih fun a ha => h a (by simp [ha])

theorem firstOfEachName_append_middle {es₁ later es₂ : List Expression}
    (h : ∀ e ∈ later, e.name ∈ es₁.map Expression.name) :
    firstOfEachName (es₁ ++ later ++ es₂) = firstOfEachName (es₁ ++ es₂) := by
  induction es₂ using List.reverseRecOn with
  | nil => simpa using firstOfEachName_append h
  | append_singleton es₂ e ih =>
      -- `later` has no names of its own, so the same names have been declared before `e`
      have hnames : e.name ∈ (es₁ ++ later ++ es₂).map Expression.name ↔
          e.name ∈ (es₁ ++ es₂).map Expression.name := by
        simp only [List.map_append, List.mem_append]
        constructor
        · rintro ((hmem | hmem) | hmem)
          · exact .inl hmem
          · rcases List.mem_map.1 hmem with ⟨a, ha, hname⟩
            exact .inl (hname ▸ h a ha)
          · exact .inr hmem
        · rintro (hmem | hmem)
          · exact .inl (.inl hmem)
          · exact .inr hmem
      rw [← List.append_assoc, ← List.append_assoc, firstOfEachName_concat, firstOfEachName_concat,
        ih]
      simp only [hnames]

theorem firstOfEachName_named_middle {es₁ later es₂ : List Expression}
    (h : ∀ e ∈ later, e.name ∈ es₁.map Expression.name) :
    firstOfEachName (named (es₁ ++ later ++ es₂)) = firstOfEachName (named (es₁ ++ es₂)) := by
  have hnamed : ∀ es, firstOfEachName (named es) = named (firstOfEachName es) := fun es =>
    (filter_firstOfEachName (fun n => !n.isEmpty) es).symm
  rw [hnamed, hnamed, firstOfEachName_append_middle h]

/-! ## The stages of a declaration -/

namespace Variable

theorem withExplicitType_eq_setType (token : Option (List Char)) (v : Variable) :
    v.withExplicitType l token = v.setType ((token.bind l.explicitType?).getD v.type) := by
  unfold withExplicitType
  cases token.bind l.explicitType? <;> rfl

theorem withExplicitType_eq (token : Option (List Char)) (v : Variable) :
    ∃ type, v.withExplicitType l token = v.setType type :=
  ⟨_, withExplicitType_eq_setType token v⟩

/-- The choices that belong to the name, if there are any. -/
theorem withNameOptions_eq (v : Variable) :
    v.withNameOptions l =
      { v with
        type := if (l.optionsFor? v.name).isSome then .select else v.type
        options := (l.optionsFor? v.name).getD v.options } := by
  unfold withNameOptions
  cases l.optionsFor? v.name <;> rfl

theorem withNameOptions_cases (v : Variable) :
    v.withNameOptions l = v ∨
      ∃ choices, v.withNameOptions l = { v with type := .select, options := choices } := by
  unfold withNameOptions
  split
  case h_1 choices _ => exact .inr ⟨choices, rfl⟩
  case h_2 => exact .inl rfl

/-- A third segment has choices or rules, depending on the type. -/
theorem withOptionsOrRules_cases (segment : Option (List Char)) (v : Variable) :
    (v.type = .select ∧ ∃ choices, v.withOptionsOrRules segment = { v with options := choices }) ∨
      (v.type ≠ .select ∧ v.withOptionsOrRules segment = v.withExtraRules segment) := by
  by_cases htype : v.type = .select
  · refine .inl ⟨htype, ?_⟩
    cases segment with
    | none => exact ⟨v.options, rfl⟩
    | some t =>
        have hchoice : v.isChoice = true := by
          simp [isChoice, htype]
        simp only [withOptionsOrRules, hchoice, if_true]
        split
        · exact ⟨v.options, rfl⟩
        · exact ⟨_, rfl⟩
  · refine .inr ⟨htype, ?_⟩
    cases segment with
    | none => rfl
    | some t => simp [withOptionsOrRules, withExtraRules, isChoice, htype]

theorem withExtraRules_eq (segment : Option (List Char)) (v : Variable) :
    v.withExtraRules segment = (segment.elim [] Rule.parseList).foldl applyRule v := by
  cases segment with
  | none => rfl
  | some t => rfl

/-- Rules make a variable required, give it a default and constrain it, and nothing else. -/
theorem exists_foldl_applyRule (rules : List Rule) (v : Variable) :
    ∃ required default validation,
      rules.foldl applyRule v = { v with required, default, validation } := by
  induction rules generalizing v with
  | nil => exact ⟨_, _, _, rfl⟩
  | cons rule rules ih =>
      obtain ⟨required, default, validation, hv⟩ := ih (v.applyRule rule)
      refine ⟨required, default, validation, ?_⟩
      rw [List.foldl_cons, hv]
      cases rule <;> rfl

theorem settleChoices_cases (v : Variable) :
    (v.type = .select ∧ v.options ≠ [] ∧ v.settleChoices = v) ∨
      (v.type = .select ∧ v.settleChoices = { v with type := .text, options := [] }) ∨
      (v.type ≠ .select ∧ v.settleChoices = { v with options := [] }) := by
  by_cases htype : v.type = .select
  · by_cases hoptions : v.options = []
    · exact .inr (.inl ⟨htype, by simp [settleChoices, setType, isChoice, htype, hoptions]⟩)
    · exact .inl ⟨htype, hoptions, by simp [settleChoices, isChoice, htype, hoptions]⟩
  · exact .inr (.inr ⟨htype, by simp [settleChoices, isChoice, htype]⟩)

theorem validation_settleChoices (v : Variable) :
    v.settleChoices.validation = v.validation := by
  rcases v.settleChoices_cases with ⟨-, -, hv⟩ | ⟨-, hv⟩ | ⟨-, hv⟩ <;> rw [hv]

/-- What the name and the type segment make of a variable has no constraints. -/
theorem exists_start_declare (l : Lexicon) (e : Expression) :
    ∃ v : Variable, v.validation = none ∧
      declare l e = (((v.withOptionsOrRules e.optionsOrRules).withExtraRules
        e.extraRules).settleChoices).refreshHint := by
  refine ⟨_, ?_, rfl⟩
  rw [withExplicitType_eq_setType, withNameOptions_eq]
  rfl

/-- The constraints of a variable are made by the rules of its segments and nothing else. -/
theorem exists_rules_declare (l : Lexicon) (e : Expression) :
    ∃ (v : Variable) (rules : List Rule), v.validation = none ∧
      (∀ rule ∈ rules, ∃ t, rule ∈ Rule.parseList t) ∧
        (declare l e).validation = (rules.foldl applyRule v).validation := by
  have hlist : ∀ segment : Option (List Char), ∀ rule ∈ segment.elim [] Rule.parseList,
      ∃ t, rule ∈ Rule.parseList t := by
    intro segment rule hrule
    cases segment with
    | none => cases hrule
    | some t => exact ⟨t, hrule⟩
  rcases exists_start_declare l e with ⟨v, hnone, hdeclare⟩
  rw [hdeclare, refreshHint, validation_settleChoices, withExtraRules_eq]
  -- the third segment has choices, which are no rules, or rules that come before the others
  rcases withOptionsOrRules_cases e.optionsOrRules v with ⟨-, choices, hv⟩ | ⟨-, hv⟩
  · rw [hv]
    exact ⟨{ v with options := choices }, _, hnone, hlist e.extraRules, rfl⟩
  · rw [hv, withExtraRules_eq, ← List.foldl_append]
    refine ⟨v, _, hnone, ?_, rfl⟩
    intro rule hrule
    rcases List.mem_append.1 hrule with hrule | hrule
    · exact hlist e.optionsOrRules rule hrule
    · exact hlist e.extraRules rule hrule

/-! ## What a variable is called -/

/-- The name and the label, which are settled when the variable is made. -/
def heading (v : Variable) : String × String :=
  (v.name, v.label)

theorem heading_foldl (rules : List Rule) (v : Variable) :
    (rules.foldl applyRule v).heading = v.heading := by
  obtain ⟨required, default, validation, hv⟩ := exists_foldl_applyRule rules v
  rw [hv]
  rfl

theorem heading_withExplicitType (token : Option (List Char)) (v : Variable) :
    (v.withExplicitType l token).heading = v.heading := by
  rcases withExplicitType_eq (l := l) token v with ⟨type, htype⟩
  rw [htype]
  rfl

theorem heading_withNameOptions (v : Variable) : (v.withNameOptions l).heading = v.heading := by
  rcases withNameOptions_cases (l := l) v with hv | ⟨choices, hv⟩
  · rw [hv]
  · rw [hv]
    rfl

theorem heading_withExtraRules (segment : Option (List Char)) (v : Variable) :
    (v.withExtraRules segment).heading = v.heading := by
  rw [withExtraRules_eq, heading_foldl]

theorem heading_withOptionsOrRules (segment : Option (List Char)) (v : Variable) :
    (v.withOptionsOrRules segment).heading = v.heading := by
  rcases withOptionsOrRules_cases segment v with ⟨-, choices, hv⟩ | ⟨-, hv⟩
  · rw [hv]
    rfl
  · rw [hv, heading_withExtraRules]

theorem heading_settleChoices (v : Variable) : v.settleChoices.heading = v.heading := by
  rcases v.settleChoices_cases with ⟨-, -, hv⟩ | ⟨-, hv⟩ | ⟨-, hv⟩
  · rw [hv]
  · rw [hv]
    rfl
  · rw [hv]
    rfl

theorem heading_declare (l : Lexicon) (e : Expression) :
    (declare l e).heading =
      (new (String.ofList e.name) (l.labelFor (String.ofList e.name))
        (l.inferType (String.ofList e.name))).heading := by
  have hrefresh : ∀ v : Variable, v.refreshHint.heading = v.heading := fun v => rfl
  unfold declare
  simp only [hrefresh, heading_settleChoices, heading_withExtraRules, heading_withOptionsOrRules,
    heading_withNameOptions, heading_withExplicitType]

/-- However a variable is declared, its name is that of the declaration. -/
theorem name_declare (l : Lexicon) (e : Expression) : (declare l e).name = String.ofList e.name :=
  congrArg Prod.fst (heading_declare l e)

/-- The name stands in for a label that is empty. -/
theorem label_declare (l : Lexicon) (e : Expression) :
    (declare l e).label =
      if (l.labelFor (String.ofList e.name)).isEmpty then String.ofList e.name
      else l.labelFor (String.ofList e.name) :=
  congrArg Prod.snd (heading_declare l e)

end Variable

end FormTemplate
