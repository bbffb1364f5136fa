import FormTemplate.Check
import FormTemplate.Proofs.Text.Cutting
import FormTemplate.Proofs.Text.Trim

/-!
# Rules — what rule lists say, and what they leave in a variable

* `Value.DefaultOf` — a value that can be the default of a field of some type;
* `Rule.trimmed_of_default_mem` — the text of a default rule is trimmed and has characters;
* `Variable.defaultOf_typedDefault` — so what is stored for it is a default of the type;
* `Variable.Ruled` — constraints are never empty, and the default is one of the type;
* `Variable.Ruled.applyRule`, `Variable.Ruled.applyRules` — one rule, and a list of them, keep that;
* `Rule.fitsInt64_of_mem`, `Variable.BoundsFit` — bounds are integers of 64 bits, whatever the rules;
* `Rule.parseList_pattern` — a pattern without a comma, and without a blank at its end, is read as it
  is written.
-/

namespace FormTemplate

open Text (Trimmed isBlank)

/-! ## Defaults -/

/-- A number field has a number for its default, or a text that is none; a truth value takes the
place of its text; and no default is blank. -/
inductive Value.DefaultOf : FieldType → Value → Prop where
  | number (n : Number) : DefaultOf .number (.number n)
  | bool (b : Bool) : DefaultOf .boolean (.bool b)
  | string {type : FieldType} {s : String} (nonblank : Text.blankString s = false)
      (not_number : type = .number → (Value.string s).number? = none)
      (not_bool : type = .boolean → s ≠ "true" ∧ s ≠ "false") : DefaultOf type (.string s)

/-- A choice that is degraded to text keeps its default. -/
theorem Value.DefaultOf.text_of_select {v : Value} (h : DefaultOf .select v) :
    DefaultOf .text v := by
  cases h with
  | string nonblank => exact .string nonblank (by simp) (by simp)

theorem Value.DefaultOf.isVacant_eq_false {type : FieldType} {v : Value} (h : DefaultOf type v) :
    v.isVacant = false := by
  cases h with
  | number n => rfl
  | bool b => rfl
  | string nonblank => exact nonblank

theorem Variable.defaultOf_typedDefault (type : FieldType) {raw : String}
    (htrimmed : Trimmed raw.toList) (hne : raw ≠ "") :
    Value.DefaultOf type (typedDefault type raw) := by
  have hblank : Text.blankString raw = false :=
    htrimmed.allBlank_eq_false (by simpa using hne)
  cases type with
  | number =>
      simp only [typedDefault]
      cases Text.readInt64? raw.toList with
      | some n => exact .number _
      | none =>
          cases hreal : Text.readReal? raw.toList with
          | some x => exact .number _
          | none =>
              refine .string hblank ?_ (by simp)
              -- a check trims the text before it reads a number, which makes no difference here
              intro _
              rw [Value.number?, htrimmed.trim_eq, hreal]
  | boolean =>
      simp only [typedDefault]
      by_cases htrue : raw = "true"
      · simpa [htrue] using Value.DefaultOf.bool true
      · by_cases hfalse : raw = "false"
        · simpa [hfalse] using Value.DefaultOf.bool false
        · simpa [htrue, hfalse] using
            @Value.DefaultOf.string .boolean raw hblank (by simp) fun _ => ⟨htrue, hfalse⟩
  | text => exact .string hblank (by simp) (by simp)
  | date => exact .string hblank (by simp) (by simp)
  | select => exact .string hblank (by simp) (by simp)
  | textarea => exact .string hblank (by simp) (by simp)

/-! ## The rules of a list -/

namespace Rule

theorem trimmed_of_ofPair? {key value : List Char} {raw : String}
    (h : ofPair? key value = some (default raw)) : Trimmed raw.toList ∧ raw ≠ "" := by
  unfold ofPair? at h
  -- of the keys only that of a default makes a default
  split at h <;> simp at h
  rcases h with ⟨hne, rfl⟩
  refine ⟨?_, ?_⟩
  · rw [String.toList_ofList]
    exact Text.trimmed_trim value
  · simpa using hne

/-- All rules but one have a key and a value. -/
theorem exists_ofPair?_of_mem {t : List Char} {rule : Rule} (h : rule ∈ parseList t) :
    rule = required ∨ ∃ key value, ofPair? key value = some rule := by
  rcases List.mem_filterMap.1 h with ⟨token, -, htoken⟩
  unfold ofToken? at htoken
  split at htoken
  · cases htoken
    exact .inl rfl
  · rcases Option.bind_eq_some_iff.1 htoken with ⟨⟨key, value⟩, -, hpair⟩
    exact .inr ⟨_, _, hpair⟩

theorem trimmed_of_default_mem {t : List Char} {raw : String} (h : default raw ∈ parseList t) :
    Trimmed raw.toList ∧ raw ≠ "" := by
  rcases exists_ofPair?_of_mem h with hrequired | ⟨key, value, hpair⟩
  · cases hrequired
  · exact trimmed_of_ofPair? hpair

theorem fitsInt64_of_ofPair? {key value : List Char} {n : Int}
    (h : ofPair? key value = some (min n) ∨ ofPair? key value = some (max n)) :
    Text.fitsInt64 n = true := by
  have hread : Text.readInt64? (Text.trim value) = some n := by
    unfold ofPair? at h
    -- of the keys only that of a bound makes a bound
    split at h <;> simp at h
    · exact h
    · exact h
  exact (Option.filter_eq_some_iff.1 hread).2

theorem fitsInt64_of_mem {t : List Char} {n : Int}
    (h : min n ∈ parseList t ∨ max n ∈ parseList t) : Text.fitsInt64 n = true := by
  rcases h with h | h
  · rcases exists_ofPair?_of_mem h with hrequired | ⟨key, value, hpair⟩
    · cases hrequired
    · exact fitsInt64_of_ofPair? (.inl hpair)
  · rcases exists_ofPair?_of_mem h with hrequired | ⟨key, value, hpair⟩
    · cases hrequired
    · exact fitsInt64_of_ofPair? (.inr hpair)

end Rule

/-! ## Variables under rules -/

namespace Variable

/-- Constraints that are there say something, and the default is one of the type. -/
structure Ruled (v : Variable) : Prop where
  constrained : ∀ c, v.validation = some c → c.isEmpty = false
  default_of : ∀ x, v.default = some x → Value.DefaultOf v.type x

theorem ruled_of_none {v : Variable} (hvalidation : v.validation = none)
    (hdefault : v.default = none) : v.Ruled :=
  ⟨by simp [hvalidation], by simp [hdefault]⟩

namespace Ruled

variable {v : Variable}

theorem constrain (h : v.Ruled) {f : Constraints → Constraints}
    (hf : ∀ c, (f c).isEmpty = false) : (v.constrain f).Ruled := by
  refine ⟨?_, h.default_of⟩
  intro c hc
  cases hc
  exact hf _

theorem applyRule (h : v.Ruled) {rule : Rule}
    (hrule : ∀ raw, rule = .default raw → Trimmed raw.toList ∧ raw ≠ "") :
    (v.applyRule rule).Ruled := by
  cases rule with
  | required => exact ⟨h.constrained, h.default_of⟩
  | min n =>
      rw [Variable.applyRule]
      exact h.constrain fun c => by simp [Constraints.isEmpty]
  | max n =>
      rw [Variable.applyRule]
      exact h.constrain fun c => by simp [Constraints.isEmpty]
  | pattern p =>
      rw [Variable.applyRule]
      exact h.constrain fun c => by simp [Constraints.isEmpty]
  | message m =>
      rw [Variable.applyRule]
      exact h.constrain fun c => by simp [Constraints.isEmpty]
  | default raw =>
      -- the default is made for the type that the variable has now
      rcases hrule raw rfl with ⟨htrimmed, hne⟩
      refine ⟨h.constrained, ?_⟩
      intro x hx
      cases hx
      exact defaultOf_typedDefault v.type htrimmed hne

theorem foldl (h : v.Ruled) {rules : List Rule}
    (hrules : ∀ raw, Rule.default raw ∈ rules → Trimmed raw.toList ∧ raw ≠ "") :
    (rules.foldl Variable.applyRule v).Ruled := by
  -- the first rule is applied first, so the induction is on the list with the variable left open
  induction rules generalizing v with
  | nil => exact h
  | cons rule rules ih =>
      refine ih (h.applyRule ?_) ?_
      · rintro raw rfl
        exact hrules raw List.mem_cons_self
      · intro raw hraw
        exact hrules raw (List.mem_cons_of_mem rule hraw)

theorem applyRules (h : v.Ruled) (t : List Char) : (v.applyRules t).Ruled :=
  h.foldl fun _ hraw => Rule.trimmed_of_default_mem hraw

end Ruled
end Variable

/-! ## The size of bounds -/

/-- The bounds are integers of 64 bits. -/
def Constraints.BoundsFit (c : Constraints) : Prop :=
  ∀ n, c.min = some n ∨ c.max = some n → Text.fitsInt64 n = true

namespace Variable

def BoundsFit (v : Variable) : Prop :=
  ∀ c, v.validation = some c → c.BoundsFit

namespace BoundsFit

variable {v : Variable}

theorem constrain (h : v.BoundsFit) {f : Constraints → Constraints}
    (hf : ∀ c : Constraints, c.BoundsFit → (f c).BoundsFit) : (v.constrain f).BoundsFit := by
  intro c hc
  cases hc
  refine hf _ ?_
  cases hv : v.validation with
  | none =>
      -- constraints without bounds
      rintro n (hn | hn) <;> cases hn
  | some c => exact h c hv

theorem applyRule (h : v.BoundsFit) {rule : Rule}
    (hrule : ∀ n, rule = .min n ∨ rule = .max n → Text.fitsInt64 n = true) :
    (v.applyRule rule).BoundsFit := by
  cases rule with
  | required => exact h
  | min m =>
      refine h.constrain ?_
      rintro c hc n (hn | hn)
      · cases hn
        exact hrule m (.inl rfl)
      · exact hc n (.inr hn)
  | max m =>
      refine h.constrain ?_
      rintro c hc n (hn | hn)
      · exact hc n (.inl hn)
      · cases hn
        exact hrule m (.inr rfl)
  | pattern p => exact h.constrain fun c hc => hc
  | message m => exact h.constrain fun c hc => hc
  | default raw => exact h

theorem foldl (h : v.BoundsFit) {rules : List Rule}
    (hrules : ∀ n, Rule.min n ∈ rules ∨ Rule.max n ∈ rules → Text.fitsInt64 n = true) :
    (rules.foldl Variable.applyRule v).BoundsFit := by
  induction rules generalizing v with
  | nil => exact h
  | cons rule rules ih =>
      refine ih (h.applyRule ?_) ?_
      · rintro n (rfl | rfl)
        · exact hrules n (.inl List.mem_cons_self)
        · exact hrules n (.inr List.mem_cons_self)
      · intro n hn
        exact hrules n (hn.imp (List.mem_cons_of_mem rule) (List.mem_cons_of_mem rule))

end BoundsFit
end Variable

/-! ## Lists of one rule -/

namespace Rule

/-- A trimmed text without a comma is a single token. -/
theorem commaList_of_trimmed {t : List Char} (htrimmed : Trimmed t) (hne : t ≠ [])
    (hcomma : ',' ∉ t) : Text.commaList t = [t] := by
  simp [Text.commaList_of_notMem hcomma, htrimmed.trim_eq, hne]

theorem parseList_of_trimmed {t : List Char} (htrimmed : Trimmed t) (hne : t ≠ [])
    (hcomma : ',' ∉ t) : parseList t = (ofToken? t).toList := by
  rw [parseList, commaList_of_trimmed htrimmed hne hcomma]
  cases htoken : ofToken? t <;> simp [htoken]

/-- The first equals sign of a token ends its key. -/
theorem ofToken?_append {key : List Char} (hkey : '=' ∉ key) (value : List Char) :
    ofToken? (key ++ '=' :: value) = ofPair? (Text.trim key) value := by
  -- the rule without a value has no equals sign
  have hrequired : key ++ '=' :: value ≠ "required".toList := by
    intro heq
    have hmem : '=' ∈ "required".toList := by
      rw [← heq]
      exact List.mem_append_right key List.mem_cons_self
    revert hmem
    decide
  rw [ofToken?, if_neg hrequired, Text.splitFirst_of_not_mem hkey]
  rfl

theorem trimmed_append_equals {key : List Char} (hkey : Trimmed key) (hne : key ≠ [])
    {value : List Char} (hvalue : value ≠ []) (hlast : ∀ c ∈ value.getLast?, isBlank c = false) :
    Trimmed (key ++ '=' :: value) := by
  refine ⟨?_, ?_⟩
  · rw [List.head?_append_of_ne_nil _ hne]
    exact hkey.head
  · rw [List.getLast?_append_of_ne_nil _ (List.cons_ne_nil '=' value), ← List.singleton_append,
      List.getLast?_append_of_ne_nil _ hvalue]
    exact hlast

/-- The key of a pattern. -/
def patternKey : List Char :=
  ['p', 'a', 't', 't', 'e', 'r', 'n']

theorem trimmed_patternKey : Trimmed patternKey := by
  constructor <;> (rintro c ⟨⟩; rfl)

/-- A pattern is kept as it is written, equals signs and blanks at its front included: a comma would
end its rule, and blanks at its end would be dropped with the rest of the token's. -/
theorem parseList_pattern {p : List Char} (hne : p ≠ []) (hcomma : ',' ∉ p)
    (hlast : ∀ c ∈ p.getLast?, isBlank c = false) :
    parseList (patternKey ++ '=' :: p) = [.pattern (String.ofList p)] := by
  have htrimmed := trimmed_append_equals trimmed_patternKey (by decide) hne hlast
  have hno : ',' ∉ patternKey ++ '=' :: p := by
    simp only [List.mem_append, List.mem_cons, not_or]
    exact ⟨by decide, by decide, hcomma⟩
  have hpair : ofPair? (Text.trim patternKey) p = some (.pattern (String.ofList p)) := by
    have hkey : String.ofList (Text.trim patternKey) = "pattern" := by
      decide
    rw [ofPair?, hkey]
    simp [hne]
  rw [parseList_of_trimmed htrimmed (by simp) hno, ofToken?_append (by decide), hpair]
  rfl

end Rule

end FormTemplate
