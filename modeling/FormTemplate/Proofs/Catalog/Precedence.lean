import FormTemplate.Proofs.Catalog.Declarations
import FormTemplate.Proofs.Lexicon.Layering

/-!
# Precedence — which source decides about a variable

A type can come from the name, from the second segment and from the choices that belong to the name;
choices can come from the third segment and from the name; and rules can stand in the third segment
and in the fourth.  The variable is made step by step, and what each step leaves can be said without
the steps before it.

* `Lexicon.Reachable` — the lexicons that there are, all of which are usable;
* `Lexicon.explicitType?_eq_some_iff` — what the second segment says;
* `Lexicon.declaredType`, `Expression.listed`, `Expression.rules` — the sources of type, choices and
  rules;
* `Variable.effects_foldl_congr` — what rules do depends on the type and on earlier rules alone;
* `Variable.start`, `Variable.exists_unsettled`, `Variable.frame_declare` — a variable before its
  rules and before the last step, from its sources, and its type and choices after it;
* `declare_precedence` — what is left in the end.
-/

namespace FormTemplate

variable {l : Lexicon}

/-! ## Lexicons -/

namespace Lexicon

/-- A lexicon made from one of the two that are given, by any calls. -/
inductive Reachable : Lexicon → Prop where
  | builtin : Reachable .builtin
  | empty : Reachable .empty
  | extend {l : Lexicon} (h : Reachable l) (call : Extension) : Reachable (l.extend call)

theorem Reachable.usable (h : l.Reachable) : l.Usable := by
  induction h with
  | builtin => exact usable_builtin
  | empty => exact usable_empty
  | extend _ call ih => exact (extends_extend _ call).usable ih

/-- Where a name has choices there is something to choose. -/
theorem Usable.ne_nil_of_optionsFor? (h : l.Usable) {name : String} {choices : List String}
    (hchoices : l.optionsFor? name = some choices) : choices ≠ [] := by
  obtain ⟨k, hfind, rfl⟩ := Option.map_eq_some_iff.1 hchoices
  have husable := h.optionKeywords k (List.mem_of_find?_eq_some hfind)
  simp only [OptionKeyword.isUsable, Bool.and_eq_true, Bool.not_eq_true'] at husable
  simpa using husable.2

end Lexicon

/-! ## Explicit types -/

/-- The token is the word, up to blanks around it and the case of ASCII letters. -/
def Text.IsWord (word : String) (token : List Char) : Prop :=
  sameToken word.toList (trim token) = true

/-- No two types have one identifier, so a token names at most one. -/
theorem FieldType.ofToken?_eq_some_iff {token : List Char} {type : FieldType} :
    ofToken? token = some type ↔ Text.IsWord type.id token := by
  constructor
  · intro h
    unfold ofToken? at h
    simpa [Text.IsWord] using List.find?_some h
  · intro h
    have hlower : type.id.toList.map Char.toLower = (Text.trim token).map Char.toLower := by
      simpa [Text.IsWord, Text.sameToken] using h
    simp only [ofToken?, Text.sameToken, ← hlower]
    cases type <;> rfl

/-- The first keyword that is the token decides, unless the token names a type itself. -/
theorem Lexicon.explicitType?_eq_some_iff {token : List Char} {type : FieldType} :
    l.explicitType? token = some type ↔
      Text.IsWord type.id token ∨
        (∀ t : FieldType, ¬ Text.IsWord t.id token) ∧
          ∃ before k after, l.typeKeywords = before ++ k :: after ∧
            (∀ k' ∈ before, ¬ Text.IsWord k'.keyword token) ∧ Text.IsWord k.keyword token ∧
            k.type = type := by
  have hkeyword : l.keywordType? token = some type ↔
      ∃ before k after, l.typeKeywords = before ++ k :: after ∧
        (∀ k' ∈ before, ¬ Text.IsWord k'.keyword token) ∧ Text.IsWord k.keyword token ∧
        k.type = type := by
    constructor
    · intro h
      obtain ⟨k, hfind, htype⟩ := Option.map_eq_some_iff.1 h
      obtain ⟨hk, before, after, hsplit, hbefore⟩ := List.find?_eq_some_iff_append.1 hfind
      refine ⟨before, k, after, hsplit, ?_, hk, htype⟩
      intro k' hk'
      simpa [Text.IsWord] using hbefore k' hk'
    · rintro ⟨before, k, after, hsplit, hbefore, hk, htype⟩
      refine Option.map_eq_some_iff.2 ⟨k, ?_, htype⟩
      refine List.find?_eq_some_iff_append.2 ⟨hk, before, after, hsplit, ?_⟩
      intro k' hk'
      simpa [Text.IsWord] using hbefore k' hk'
  rw [explicitType?, ← hkeyword]
  cases htoken : FieldType.ofToken? token with
  | some t =>
      have hword := FieldType.ofToken?_eq_some_iff.1 htoken
      rw [Option.some_or]
      constructor
      · intro h
        cases h
        exact .inl hword
      · rintro (h | ⟨hnone, -⟩)
        · rw [← htoken]
          exact FieldType.ofToken?_eq_some_iff.2 h
        · exact absurd hword (hnone t)
  | none =>
      have hnone : ∀ t : FieldType, ¬ Text.IsWord t.id token := by
        intro t hword
        rw [FieldType.ofToken?_eq_some_iff.2 hword] at htoken
        cases htoken
      rw [Option.none_or]
      constructor
      · intro h
        exact .inr ⟨hnone, h⟩
      · rintro (h | ⟨-, h⟩)
        · exact absurd h (hnone type)
        · exact h

/-! ## Sources -/

namespace Expression

/-- The choices in the third segment, without blank ones. -/
def listed (e : Expression) : List String :=
  (e.optionsOrRules.elim [] Text.commaList).map String.ofList

/-- The rules for a variable of the type.  If it is a choice, the third segment has none. -/
def rules (e : Expression) (type : FieldType) : List Rule :=
  (if type = .select then [] else e.optionsOrRules.elim [] Rule.parseList) ++
    e.extraRules.elim [] Rule.parseList

end Expression

namespace Lexicon

/-- The explicit type, or else that of the name. -/
def statedType (l : Lexicon) (e : Expression) : FieldType :=
  (e.explicitType.bind l.explicitType?).getD (l.inferType (String.ofList e.name))

/-- The type while rules are applied: choices that belong to the name come before all else. -/
def declaredType (l : Lexicon) (e : Expression) : FieldType :=
  if (l.optionsFor? (String.ofList e.name)).isSome then .select else l.statedType e

/-- The choices of a variable that is one: those of the third segment, or else those of the name. -/
def declaredChoices (l : Lexicon) (e : Expression) : List String :=
  if e.listed = [] then (l.optionsFor? (String.ofList e.name)).getD [] else e.listed

variable {e : Expression}

/-- A name with choices of its own makes a choice, and leaves something to choose. -/
theorem declared_of_optionsFor? (hl : l.Usable) {choices : List String}
    (h : l.optionsFor? (String.ofList e.name) = some choices) :
    l.declaredType e = .select ∧ l.declaredChoices e ≠ [] ∧
      l.declaredChoices e = if e.listed = [] then choices else e.listed := by
  have hlist : l.declaredChoices e = if e.listed = [] then choices else e.listed := by
    rw [declaredChoices, h, Option.getD_some]
  refine ⟨by rw [declaredType, h]; rfl, ?_, hlist⟩
  rw [hlist]
  split
  case isTrue => exact hl.ne_nil_of_optionsFor? h
  case isFalse hlisted => exact hlisted

/-- Any other name leaves it to the segments. -/
theorem declared_of_optionsFor?_eq_none (h : l.optionsFor? (String.ofList e.name) = none) :
    l.declaredType e = l.statedType e ∧ l.declaredChoices e = e.listed := by
  refine ⟨by rw [declaredType, h]; rfl, ?_⟩
  rw [declaredChoices, h]
  split
  case isTrue hlisted => exact hlisted.symm
  case isFalse => rfl

end Lexicon

/-! ## Rules -/

namespace Variable

/-- What rules make of a variable. -/
def effects (v : Variable) : Bool × Option Value × Option Constraints :=
  (v.required, v.default, v.validation)

/-- What rules leave alone. -/
def frame (v : Variable) : FieldType × List String :=
  (v.type, v.options)

theorem frame_foldl (rules : List Rule) (v : Variable) :
    (rules.foldl applyRule v).frame = v.frame := by
  obtain ⟨required, default, validation, hv⟩ := exists_foldl_applyRule rules v
  rw [hv]
  rfl

/-- A rule reads the type of a variable and what earlier rules have made of it, and nothing else. -/
theorem effects_applyRule_congr {v w : Variable} (htype : v.type = w.type)
    (h : v.effects = w.effects) (rule : Rule) :
    (v.applyRule rule).effects = (w.applyRule rule).effects := by
  obtain ⟨hrequired, hdefault, hvalidation⟩ : v.required = w.required ∧ v.default = w.default ∧
      v.validation = w.validation := by
    simpa [effects] using h
  cases rule <;> simp [effects, applyRule, constrain, htype, hrequired, hdefault, hvalidation]

theorem effects_foldl_congr {v w : Variable} (htype : v.type = w.type)
    (h : v.effects = w.effects) (rules : List Rule) :
    (rules.foldl applyRule v).effects = (rules.foldl applyRule w).effects := by
  induction rules generalizing v w with
  | nil => exact h
  | cons rule rules ih =>
      rw [List.foldl_cons, List.foldl_cons]
      refine ih ?_ (effects_applyRule_congr htype h rule)
      cases rule <;> exact htype

/-! ## Before the last step -/

/-- Choices in the third segment take the place of those there are. -/
theorem withOptionsOrRules_of_select {v : Variable} (h : v.type = .select) (e : Expression) :
    v.withOptionsOrRules e.optionsOrRules =
      { v with options := if e.listed = [] then v.options else e.listed } := by
  have hchoice : v.isChoice = true := by
    simp [isChoice, h]
  unfold withOptionsOrRules Expression.listed
  cases e.optionsOrRules with
  | none => rfl
  | some t =>
      by_cases hempty : Text.commaList t = []
      · simp [hchoice, hempty]
      · simp [hchoice, hempty]

/-- A variable before the third segment is read, which its name and its second segment make. -/
def start (l : Lexicon) (e : Expression) : Variable :=
  let name := String.ofList e.name
  (new name (l.labelFor name) (l.inferType name))
    |>.withExplicitType l e.explicitType
    |>.withNameOptions l

theorem declare_eq_start (l : Lexicon) (e : Expression) :
    declare l e = ((start l e).withOptionsOrRules e.optionsOrRules |>.withExtraRules
      e.extraRules).settleChoices.refreshHint :=
  rfl

theorem frame_start (l : Lexicon) (e : Expression) :
    (start l e).frame =
      (l.declaredType e, (l.optionsFor? (String.ofList e.name)).getD []) := by
  rw [start, withExplicitType_eq_setType, withNameOptions_eq]
  rfl

theorem type_start (l : Lexicon) (e : Expression) : (start l e).type = l.declaredType e :=
  congrArg Prod.fst (frame_start l e)

theorem effects_start (l : Lexicon) (e : Expression) :
    (start l e).effects = (false, none, none) := by
  rw [start, withExplicitType_eq_setType, withNameOptions_eq]
  rfl

/-- A variable before it is settled: its type, its choices if it is one, and what its rules have made
of it. -/
theorem exists_unsettled (l : Lexicon) (e : Expression) :
    let name := String.ofList e.name
    let type := l.declaredType e
    ∃ v : Variable, declare l e = v.settleChoices.refreshHint ∧ v.type = type ∧
      (type = .select → v.options = l.declaredChoices e) ∧
      v.effects = ((e.rules type).foldl applyRule (new name (l.labelFor name) type)).effects := by
  intro name type
  obtain ⟨hstart, hoptions⟩ := Prod.mk.inj (frame_start l e)
  have heffects := effects_start l e
  refine ⟨_, declare_eq_start l e, ?_⟩
  rw [withExtraRules_eq]
  by_cases htype : type = .select
  · -- the third segment has choices, and the rules are those of the fourth
    have hchoices : (start l e).withOptionsOrRules e.optionsOrRules =
        { start l e with options := l.declaredChoices e } := by
      rw [withOptionsOrRules_of_select (hstart.trans htype), Lexicon.declaredChoices, hoptions]
    have hframe := frame_foldl (e.extraRules.elim [] Rule.parseList)
      { start l e with options := l.declaredChoices e }
    obtain ⟨hkeptType, hkeptOptions⟩ := Prod.mk.inj hframe
    rw [hchoices, Expression.rules, if_pos htype, List.nil_append]
    refine ⟨hkeptType.trans hstart, fun _ => hkeptOptions, ?_⟩
    apply effects_foldl_congr
    · exact hstart
    · exact heffects
  · obtain ⟨hselect, -⟩ | ⟨-, hrules⟩ := withOptionsOrRules_cases e.optionsOrRules (start l e)
    · exact absurd (hstart.symm.trans hselect) htype
    · have hframe := frame_foldl
        (e.optionsOrRules.elim [] Rule.parseList ++ e.extraRules.elim [] Rule.parseList) (start l e)
      rw [hrules, withExtraRules_eq, ← List.foldl_append, Expression.rules, if_neg htype]
      refine ⟨(congrArg Prod.fst hframe).trans hstart, fun h => absurd h htype, ?_⟩
      exact effects_foldl_congr hstart heffects _

/-! ## The last step -/

theorem effects_settled (v : Variable) : v.settleChoices.refreshHint.effects = v.effects := by
  rcases v.settleChoices_cases with ⟨-, -, hv⟩ | ⟨-, hv⟩ | ⟨-, hv⟩ <;> rw [hv] <;> rfl

/-- A choice without choices becomes a text, and nothing else has any. -/
theorem frame_settled (v : Variable) :
    v.settleChoices.refreshHint.frame =
      if v.type ≠ .select then (v.type, [])
      else if v.options = [] then (.text, [])
      else (.select, v.options) := by
  by_cases htype : v.type = .select
  · by_cases hoptions : v.options = []
    · simp [settleChoices, frame, refreshHint, setType, isChoice, htype, hoptions]
    · simp [settleChoices, frame, refreshHint, isChoice, htype, hoptions]
  · simp [settleChoices, frame, refreshHint, isChoice, htype]

theorem frame_declare (l : Lexicon) (e : Expression) :
    (declare l e).frame =
      if l.declaredType e ≠ .select then (l.declaredType e, [])
      else if l.declaredChoices e = [] then (.text, [])
      else (.select, l.declaredChoices e) := by
  obtain ⟨v, hv, htype, hoptions, -⟩ := exists_unsettled l e
  rw [hv, frame_settled, htype]
  by_cases hselect : l.declaredType e = .select
  · rw [hoptions hselect]
  · rw [if_pos hselect, if_pos hselect]

end Variable

/-! ## The variable of a declaration -/

/-- Which source decides about a variable.  Choices that belong to its name make it a choice, whatever
its explicit type says; they give way only to choices in the third segment.  Otherwise the explicit
type counts, if it is an identifier or else a keyword, and then the type of the name; a choice has its
choices from the third segment, and is a text without them.  No other type has choices.

The rules that count are those of the third segment and then those of the fourth.  If the variable is
a choice, even one that ends as a text, they are those of the fourth alone. -/
theorem declare_precedence (h : l.Reachable) (e : Expression) :
    let name := String.ofList e.name
    let v := Variable.declare l e
    (∀ choices, l.optionsFor? name = some choices →
        v.type = .select ∧ v.options = if e.listed = [] then choices else e.listed) ∧
      (l.optionsFor? name = none →
        (l.statedType e = .select → e.listed ≠ [] → v.type = .select ∧ v.options = e.listed) ∧
          (l.statedType e = .select → e.listed = [] → v.type = .text ∧ v.options = []) ∧
          (l.statedType e ≠ .select → v.type = l.statedType e ∧ v.options = [])) ∧
      (∀ token type, l.explicitType? token = some type ↔
        Text.IsWord type.id token ∨
          (∀ t : FieldType, ¬ Text.IsWord t.id token) ∧
            ∃ before k after, l.typeKeywords = before ++ k :: after ∧
              (∀ k' ∈ before, ¬ Text.IsWord k'.keyword token) ∧ Text.IsWord k.keyword token ∧
              k.type = type) ∧
      let type := l.declaredType e
      let ruled := (e.rules type).foldl Variable.applyRule
        (Variable.new name (l.labelFor name) type)
      v.required = ruled.required ∧ v.default = ruled.default ∧
        v.validation = ruled.validation := by
  intro name v
  have hframe : (v.type, v.options) = _ := Variable.frame_declare l e
  refine ⟨?_, ?_, fun token type => Lexicon.explicitType?_eq_some_iff, ?_⟩
  · intro choices hchoices
    obtain ⟨htype, hne, hlist⟩ := Lexicon.declared_of_optionsFor? h.usable hchoices
    rw [if_neg (not_not.2 htype), if_neg hne, hlist] at hframe
    exact Prod.mk.inj hframe
  · intro hnone
    obtain ⟨htype, hlist⟩ := Lexicon.declared_of_optionsFor?_eq_none hnone
    rw [htype, hlist] at hframe
    refine ⟨?_, ?_, ?_⟩
    · intro hselect hlisted
      rw [if_neg (not_not.2 hselect), if_neg hlisted] at hframe
      exact Prod.mk.inj hframe
    · intro hselect hlisted
      rw [if_neg (not_not.2 hselect), if_pos hlisted] at hframe
      exact Prod.mk.inj hframe
    · intro hselect
      rw [if_pos hselect] at hframe
      exact Prod.mk.inj hframe
  · obtain ⟨w, hw, -, -, heffects⟩ := Variable.exists_unsettled l e
    have hv : v.effects = w.effects := (congrArg Variable.effects hw).trans w.effects_settled
    obtain ⟨hrequired, hrest⟩ := Prod.mk.inj (hv.trans heffects)
    obtain ⟨hdefault, hvalidation⟩ := Prod.mk.inj hrest
    exact ⟨hrequired, hdefault, hvalidation⟩

/-- A number whose name has choices, and a keyword in capitals with rules in both segments. -/
theorem declare_precedence_size :
    let l := Lexicon.builtin.extend (.optionKeyword "size" ["S", "M"])
    let v := Variable.declare l
      ⟨"shoeSize".toList, some "number".toList, some "L, ,XL".toList, some "required".toList⟩
    let w := Variable.declare l
      ⟨"x".toList, some "SCORE".toList, some "min=1".toList, some "min=2".toList⟩
    (v.type = .select ∧ v.options = ["L", "XL"] ∧ v.required = true) ∧
      w.type = .number ∧ w.options = [] ∧ w.validation = some { min := some 2 } := by
  intro l v w
  have hl : l.Reachable := Lexicon.Reachable.builtin.extend _
  obtain ⟨hchoices, -, -, hrequired, -⟩ := declare_precedence hl
    ⟨"shoeSize".toList, some "number".toList, some "L, ,XL".toList, some "required".toList⟩
  obtain ⟨-, hplain, -, -, -, hvalidation⟩ := declare_precedence hl
    ⟨"x".toList, some "SCORE".toList, some "min=1".toList, some "min=2".toList⟩
  obtain ⟨htype, hoptions⟩ := hchoices ["S", "M"] (by decide +kernel)
  obtain ⟨hnumber, hnone⟩ := (hplain (by decide +kernel)).2.2 (by decide +kernel)
  refine ⟨⟨htype, hoptions.trans (by decide +kernel), hrequired.trans (by decide +kernel)⟩, ?_,
    hnone, hvalidation.trans (by decide +kernel)⟩
  exact hnumber.trans (by decide +kernel)

end FormTemplate
