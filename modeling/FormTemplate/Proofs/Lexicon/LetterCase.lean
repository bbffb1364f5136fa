import Mathlib.Data.List.Forall2
import FormTemplate.Proofs.Catalog.Precedence
import FormTemplate.Proofs.Unicode.Lowercase

/-!
# LetterCase — the case of ASCII letters says nothing about a field

Names are compared with keywords in lowercase, and tokens with keywords and with identifiers up to the
case of ASCII letters.  The first comparison is one of Unicode, in which other letters around an ASCII
letter count as well, and the second one trims the token first; neither of them can tell a text from
the same text in another case.  What is made of a declaration then reads its name through these
comparisons alone, but for the label.

* `Text.Recased` — texts that differ in the case of ASCII letters at most;
* `Text.Recased.lowercase_eq`, `Text.Recased.trim`, `Text.Recased.sameToken_congr` — what the
  comparisons see of such texts;
* `Lexicon.Recased` — tables whose keywords differ so, and whose labels may differ in any way;
* `Lexicon.Recased.inferType_eq` and its siblings — such tables give the same answers;
* `Expression.Recased`, `Variable.declare_recased` — declarations that differ so, and the variables
  that they make;
* `letter_case_ignored` — names, tokens and declarations.
-/

namespace FormTemplate

/-! ## Texts -/

namespace Text

/-- Texts that are the same character by character, but for the case of ASCII letters. -/
def Recased (s t : List Char) : Prop :=
  List.Forall₂ (fun c d => d = c ∨ d = c.toLower ∨ d = c.toUpper) s t

theorem toLower_eq_toLower_iff {c d : Char} :
    c.toLower = d.toLower ↔ d = c ∨ d = c.toLower ∨ d = c.toUpper := by
  simp only [← Char.toNat_inj, Unicode.toNat_toLower, Unicode.toNat_toUpper]
  -- four places for the two characters: a capital or not, and a small letter or not
  split <;> split <;> split <;> omega

/-- Such texts are the same in lowercase, and no others are. -/
theorem recased_iff {s t : List Char} : Recased s t ↔ s.map Char.toLower = t.map Char.toLower := by
  rw [← List.forall₂_eq_eq_eq, List.forall₂_map_left_iff, List.forall₂_map_right_iff, Recased]
  simp only [toLower_eq_toLower_iff]

instance (s t : List Char) : Decidable (Recased s t) :=
  decidable_of_iff _ recased_iff.symm

theorem Recased.refl (t : List Char) : Recased t t :=
  recased_iff.2 rfl

theorem isBlank_toLower (c : Char) : isBlank c.toLower = isBlank c := by
  rcases Unicode.toLower_cases c with heq | ⟨hlo, hhi, hlower⟩
  · rw [heq]
  · -- neither of two letters is a blank
    have hcapital : isBlank c = false := by
      simp [isBlank]
      omega
    have hsmall : isBlank c.toLower = false := by
      simp [isBlank, hlower]
      omega
    rw [hcapital, hsmall]

theorem trimEnd_map_toLower (t : List Char) :
    trimEnd (t.map Char.toLower) = (trimEnd t).map Char.toLower := by
  induction t with
  | nil => rfl
  | cons c t ih =>
      rw [List.map_cons, trimEnd, ih, isBlank_toLower, trimEnd]
      cases trimEnd t with
      | nil => by_cases hc : isBlank c <;> simp [hc]
      | cons d s => rfl

theorem trim_map_toLower (t : List Char) :
    trim (t.map Char.toLower) = (trim t).map Char.toLower := by
  have hblank : isBlank ∘ Char.toLower = isBlank := funext isBlank_toLower
  rw [trim, trimStart, List.dropWhile_map, hblank, trimEnd_map_toLower, trim, trimStart]

namespace Recased

variable {s s' t t' : List Char}

theorem lowercase_eq (h : Recased s t) : Unicode.lowercase s = Unicode.lowercase t := by
  rw [← Unicode.lowercase_map_toLower, recased_iff.1 h, Unicode.lowercase_map_toLower]

theorem trim (h : Recased s t) : Recased (trim s) (trim t) := by
  rw [recased_iff, ← trim_map_toLower, recased_iff.1 h, trim_map_toLower]

theorem sameToken_congr (hs : Recased s s') (ht : Recased t t') :
    sameToken s t = sameToken s' t' := by
  rw [sameToken, sameToken, recased_iff.1 hs, recased_iff.1 ht]

end Recased
end Text

/-- An identifier is a token as well. -/
theorem FieldType.ofToken?_congr {token token' : List Char} (h : Text.Recased token token') :
    ofToken? token = ofToken? token' := by
  simp only [ofToken?, (Text.Recased.refl _).sameToken_congr h.trim]

/-! ## Tables -/

/-- What the first match of a table says, if the entries of two tables match alike and say the same. -/
theorem map_find?_congr {α β : Type} {r : α → α → Prop} {p q : α → Bool} {f : α → β}
    {entries entries' : List α} (h : List.Forall₂ r entries entries')
    (hp : ∀ a b, r a b → p a = q b) (hf : ∀ a b, r a b → f a = f b) :
    (entries.find? p).map f = (entries'.find? q).map f := by
  induction h with
  | nil => rfl
  | @cons a b entries entries' hab _ ih =>
      rw [List.find?_cons, List.find?_cons, hp a b hab]
      cases q b with
      | true => exact congrArg some (hf a b hab)
      | false => exact ih

namespace Lexicon

/-- Tables with the same types and choices under keywords that differ in the case of ASCII letters at
most. -/
structure Recased (l l' : Lexicon) : Prop where
  typeKeywords : List.Forall₂
    (fun k k' : TypeKeyword => Text.Recased k.keyword.toList k'.keyword.toList ∧ k.type = k'.type)
    l.typeKeywords l'.typeKeywords
  optionKeywords : List.Forall₂
    (fun k k' : OptionKeyword =>
      Text.Recased k.keyword.toList k'.keyword.toList ∧ k.choices = k'.choices)
    l.optionKeywords l'.optionKeywords

theorem Recased.refl (l : Lexicon) : l.Recased l :=
  ⟨List.forall₂_same.2 fun _ _ => ⟨.refl _, rfl⟩, List.forall₂_same.2 fun _ _ => ⟨.refl _, rfl⟩⟩

theorem mentions_congr {name name' : List Char} {keyword keyword' : String}
    (hname : Text.Recased name name') (hkeyword : Text.Recased keyword.toList keyword'.toList) :
    mentions name keyword = mentions name' keyword' := by
  rw [mentions, mentions, hname.lowercase_eq, hkeyword.lowercase_eq]

namespace Recased

variable {l l' : Lexicon} (h : l.Recased l')

include h

section

variable {name name' : String} (hname : Text.Recased name.toList name'.toList)

include hname

theorem inferType_eq : l.inferType name = l'.inferType name' := by
  have hfound := map_find?_congr h.typeKeywords
    (fun _ _ hk => mentions_congr hname hk.1) (fun _ _ hk => hk.2)
  rw [inferType, inferType, hfound]

theorem optionsFor?_eq : l.optionsFor? name = l'.optionsFor? name' :=
  map_find?_congr h.optionKeywords
    (fun _ _ hk => mentions_congr hname hk.1) (fun _ _ hk => hk.2)

end

section

variable {token token' : List Char} (htoken : Text.Recased token token')

include htoken

theorem keywordType?_eq : l.keywordType? token = l'.keywordType? token' :=
  map_find?_congr h.typeKeywords
    (fun _ _ hk => hk.1.sameToken_congr htoken.trim) (fun _ _ hk => hk.2)

theorem explicitType?_eq : l.explicitType? token = l'.explicitType? token' := by
  rw [explicitType?, explicitType?, FieldType.ofToken?_congr htoken, h.keywordType?_eq htoken]

end

end Recased
end Lexicon

/-! ## Declarations -/

namespace Expression

/-- Expressions whose names and whose second segments differ in the case of ASCII letters at most. -/
structure Recased (e e' : Expression) : Prop where
  name : Text.Recased e.name e'.name
  explicitType : Option.Rel Text.Recased e.explicitType e'.explicitType
  optionsOrRules : e.optionsOrRules = e'.optionsOrRules
  extraRules : e.extraRules = e'.extraRules

theorem recased_of_name {e e' : Expression} (hname : Text.Recased e.name e'.name)
    (htype : e.explicitType = e'.explicitType) (hoptions : e.optionsOrRules = e'.optionsOrRules)
    (hrules : e.extraRules = e'.extraRules) : e.Recased e' := by
  refine ⟨hname, ?_, hoptions, hrules⟩
  rw [← htype]
  cases e.explicitType with
  | none => exact .none
  | some token => exact .some (.refl token)

theorem recased_parse {sep s t name name' : List Char} {rest : List (List Char)}
    (hs : Text.pieces maxSegments sep s = name :: rest)
    (ht : Text.pieces maxSegments sep t = name' :: rest) (h : Text.Recased name name') :
    (parse sep s).Recased (parse sep t) := by
  apply recased_of_name <;> simp [parse, segment?, hs, ht, h.trim]

theorem Recased.rules_eq {e e' : Expression} (h : e.Recased e') (type : FieldType) :
    e.rules type = e'.rules type := by
  rw [rules, rules, h.optionsOrRules, h.extraRules]

end Expression

namespace Lexicon.Recased

variable {l l' : Lexicon} {e e' : Expression} (h : l.Recased l') (he : e.Recased e')

include h he

theorem optionsFor?_declared_eq :
    l.optionsFor? (String.ofList e.name) = l'.optionsFor? (String.ofList e'.name) := by
  apply h.optionsFor?_eq
  rw [String.toList_ofList, String.toList_ofList]
  exact he.name

theorem statedType_eq : l.statedType e = l'.statedType e' := by
  have hinferred : l.inferType (String.ofList e.name) = l'.inferType (String.ofList e'.name) := by
    apply h.inferType_eq
    rw [String.toList_ofList, String.toList_ofList]
    exact he.name
  have hexplicit : e.explicitType.bind l.explicitType? = e'.explicitType.bind l'.explicitType? := by
    rcases e with ⟨_, type, _, _⟩
    rcases e' with ⟨_, type', _, _⟩
    cases he.explicitType with
    | none => rfl
    | some htoken => exact h.explicitType?_eq htoken
  rw [statedType, statedType, hexplicit, hinferred]

theorem declaredType_eq : l.declaredType e = l'.declaredType e' := by
  rw [declaredType, declaredType, h.optionsFor?_declared_eq he, h.statedType_eq he]

theorem declaredChoices_eq : l.declaredChoices e = l'.declaredChoices e' := by
  have hlisted : e.listed = e'.listed := by
    rw [Expression.listed, Expression.listed, he.optionsOrRules]
  rw [declaredChoices, declaredChoices, h.optionsFor?_declared_eq he, hlisted]

end Lexicon.Recased

namespace Variable

variable {l l' : Lexicon} {e e' : Expression} (h : l.Recased l') (he : e.Recased e')

include h he

theorem frame_declare_recased : (declare l e).frame = (declare l' e').frame := by
  rw [frame_declare, frame_declare, h.declaredType_eq he, h.declaredChoices_eq he]

/-- What rules make of a variable depends on its type, and not on its name or its label. -/
theorem effects_declare_recased : (declare l e).effects = (declare l' e').effects := by
  obtain ⟨v, hv, -, -, heffects⟩ := exists_unsettled l e
  obtain ⟨v', hv', -, -, heffects'⟩ := exists_unsettled l' e'
  -- the names and labels that the rules start from differ, but rules do not read them
  rw [hv, hv', effects_settled, effects_settled, heffects, heffects', ← h.declaredType_eq he,
    ← he.rules_eq]
  apply effects_foldl_congr
  · rfl
  · rfl

theorem declare_recased :
    let v := declare l e
    let v' := declare l' e'
    v.type = v'.type ∧ v.options = v'.options ∧ v.required = v'.required ∧
      v.default = v'.default ∧ v.validation = v'.validation := by
  intro v v'
  obtain ⟨htype, hoptions⟩ := Prod.mk.inj (frame_declare_recased h he)
  obtain ⟨hrequired, hrest⟩ := Prod.mk.inj (effects_declare_recased h he)
  obtain ⟨hdefault, hvalidation⟩ := Prod.mk.inj hrest
  exact ⟨htype, hoptions, hrequired, hdefault, hvalidation⟩

end Variable

/-- The case of ASCII letters in names, tokens and keywords decides nothing.  Not about the type and
the choices that belong to a name, nor about the type that a token stands for, be it a keyword or an
identifier; and so not about the variable of a declaration either, whose name and label are all that
differs.  In a template that is the variable of a placeholder, which is cut into its segments first. -/
theorem letter_case_ignored {l l' : Lexicon} (h : l.Recased l') :
    (∀ name name' : String, Text.Recased name.toList name'.toList →
        l.inferType name = l'.inferType name' ∧ l.optionsFor? name = l'.optionsFor? name') ∧
      (∀ token token' : List Char, Text.Recased token token' →
        l.keywordType? token = l'.keywordType? token' ∧
          FieldType.ofToken? token = FieldType.ofToken? token' ∧
          l.explicitType? token = l'.explicitType? token') ∧
      (∀ e e' : Expression, e.Recased e' →
        let v := Variable.declare l e
        let v' := Variable.declare l' e'
        v.type = v'.type ∧ v.options = v'.options ∧ v.required = v'.required ∧
          v.default = v'.default ∧ v.validation = v'.validation) ∧
      ∀ (sep s t name name' : List Char) (rest : List (List Char)),
        Text.pieces Expression.maxSegments sep s = name :: rest →
        Text.pieces Expression.maxSegments sep t = name' :: rest → Text.Recased name name' →
          let v := Variable.declare l (Expression.parse sep s)
          let v' := Variable.declare l' (Expression.parse sep t)
          v.type = v'.type ∧ v.options = v'.options ∧ v.required = v'.required ∧
            v.default = v'.default ∧ v.validation = v'.validation := by
  refine ⟨?_, ?_, ?_, ?_⟩
  · intro name name' hname
    exact ⟨h.inferType_eq hname, h.optionsFor?_eq hname⟩
  · intro token token' htoken
    exact ⟨h.keywordType?_eq htoken, FieldType.ofToken?_congr htoken, h.explicitType?_eq htoken⟩
  · intro e e' he
    exact Variable.declare_recased h he
  · intro sep s t name name' rest hs ht hname
    exact Variable.declare_recased h (Expression.recased_parse hs ht hname)

/-- A keyword in which not all letters are ASCII letters. -/
theorem letter_case_ignored_umlaut :
    let l := Lexicon.empty.withTypeKeyword "Größe" .number
    let l' := Lexicon.empty.withTypeKeyword "GRößE" .number
    let v := Variable.declare l (Expression.parse [':'] "schuhgröße::min=1".toList)
    let v' := Variable.declare l (Expression.parse [':'] "SCHUHGRößE::min=1".toList)
    l.inferType "KörperGröße" = l'.inferType "körpergRößE" ∧
      l.explicitType? " größe".toList = l'.explicitType? " GRößE".toList ∧
      v.type = v'.type ∧ v.type = .number ∧ v.validation = v'.validation ∧
      v.validation = some { min := some 1 } := by
  intro l l' v v'
  have hkeyword : Text.Recased "Größe".toList "GRößE".toList := by
    decide +kernel
  have h : l.Recased l' := ⟨.cons ⟨hkeyword, rfl⟩ .nil, .nil⟩
  obtain ⟨hnames, htokens, -, -⟩ := letter_case_ignored h
  obtain ⟨-, -, -, hdeclared⟩ := letter_case_ignored (Lexicon.Recased.refl l)
  obtain ⟨htype, -, -, -, hvalidation⟩ := hdeclared [':'] "schuhgröße::min=1".toList
    "SCHUHGRößE::min=1".toList "schuhgröße".toList "SCHUHGRößE".toList
    ["".toList, "min=1".toList] (by decide +kernel) (by decide +kernel) (by decide +kernel)
  refine ⟨(hnames "KörperGröße" "körpergRößE" (by decide +kernel)).1,
    (htokens " größe".toList " GRößE".toList (by decide +kernel)).2.2, htype, ?_, hvalidation, ?_⟩ <;>
      decide +kernel

end FormTemplate
