import FormTemplate.Proofs.Catalog.Rules
import FormTemplate.Proofs.Text.Numeral

/-!
# RuleLists — rules as they are written

A rule list is read token by token, and what is no rule is passed over.  So rules can be written
with blanks around them and with anything between them that is no rule: as long as there is no comma
in a token, it can neither hide nor change its neighbours.

* `Rule.text` — a rule as it is written;
* `Rule.Writable` — the rules whose texts are read back: bounds fit, and values have no comma and
  lose no blanks;
* `Rule.Reads`, `Rule.Writable.reads_text` — such a rule is read from its text;
* `Rule.Skipped`, `Rule.skipped_iff` — the tokens that are passed over: without a key, with an unknown
  key, with a malformed number, or without a value;
* `Rule.Spells` — the tokens of a list in which some rules are written, in their order;
* `Rule.parseList_join` — what a list says is what its tokens say;
* `parseList_of_spells` — the rules that are read are those that were written.
-/

namespace FormTemplate

open Text (Trimmed isBlank allBlank)

namespace Rule

/-! ## Written rules -/

/-- A key and a value with an equals sign between them. -/
def pairText (key value : String) : List Char :=
  key.toList ++ '=' :: value.toList

/-- A rule as it is written in a list. -/
def text : Rule → List Char
  | required => "required".toList
  | min n => pairText "min" (Text.showInt n)
  | max n => pairText "max" (Text.showInt n)
  | pattern p => pairText "pattern" p
  | message m => pairText "message" m
  | default d => pairText "default" d

/-- A pattern keeps blanks at its front, which messages and defaults lose. -/
def Writable : Rule → Prop
  | required => True
  | min n | max n => Text.fitsInt64 n = true
  | pattern p => p ≠ "" ∧ ',' ∉ p.toList ∧ ∀ c ∈ p.toList.getLast?, isBlank c = false
  | message t | default t => t ≠ "" ∧ ',' ∉ t.toList ∧ Trimmed t.toList

/-- The keys that there are. -/
def keys : List String :=
  ["min", "max", "pattern", "message", "default"]

/-- No key has a comma, an equals sign or a blank. -/
theorem of_mem_keys {key : String} (hkey : key ∈ keys) :
    key ≠ "" ∧ ',' ∉ key.toList ∧ '=' ∉ key.toList ∧ Trimmed key.toList := by
  have hnames : ∀ k ∈ keys, k ≠ "" ∧ ',' ∉ k.toList ∧ '=' ∉ k.toList ∧
      k.toList.any isBlank = false := by
    decide
  obtain ⟨hne, hcomma, hequals, hblank⟩ := hnames key hkey
  exact ⟨hne, hcomma, hequals, .of_nonblank (by simpa using hblank)⟩

/-- A text that is read as one rule, whatever stands around it. -/
structure Reads (r : Rule) (t : List Char) : Prop where
  trimmed : Trimmed t
  comma : ',' ∉ t
  token : ofToken? t = some r

/-- Alone in a list, the text is all that there is to read. -/
theorem Reads.parseList_eq {r : Rule} {t : List Char} (h : Reads r t) : parseList t = [r] := by
  have hne : t ≠ [] := by
    rintro rfl
    cases h.token
  rw [parseList_of_trimmed h.trimmed hne h.comma, h.token]
  rfl

theorem reads_required : Reads required "required".toList where
  trimmed := ⟨by rintro c ⟨⟩; rfl, by rintro c ⟨⟩; rfl⟩
  comma := by decide
  token := rfl

/-- A known key with a value that the key makes something of. -/
theorem reads_pairText {r : Rule} {key value : String} (hkey : key ∈ keys)
    (hvalue : value ≠ "") (hcomma : ',' ∉ value.toList)
    (hlast : ∀ c ∈ value.toList.getLast?, isBlank c = false)
    (hpair : ofPair? key.toList value.toList = some r) : Reads r (pairText key value) := by
  obtain ⟨hne, hno, hequals, htrimmed⟩ := of_mem_keys hkey
  constructor
  case trimmed =>
    exact trimmed_append_equals htrimmed (by simpa using hne) (by simpa using hvalue) hlast
  case comma =>
    simp only [pairText, List.mem_append, List.mem_cons, not_or]
    exact ⟨hno, by decide, hcomma⟩
  case token =>
    rw [pairText, ofToken?_append hequals, htrimmed.trim_eq, hpair]

/-- The digits of a bound have no comma and no blank. -/
theorem reads_bound {bound : Int → Rule} {key : String} {n : Int} (hkey : key ∈ keys)
    (hpair : ∀ value,
      ofPair? key.toList value = (Text.readInt64? (Text.trim value)).map bound)
    (hfits : Text.fitsInt64 n = true) : Reads (bound n) (pairText key (Text.showInt n)) := by
  have hnumeral := Text.numeral_showInt n
  apply reads_pairText hkey _ hnumeral.comma_notMem hnumeral.trimmed.last
  · rw [hpair, hnumeral.trimmed.trim_eq, Text.readInt64?_showInt hfits]
    rfl
  · intro hempty
    exact hnumeral.ne_nil (by rw [hempty]; rfl)

theorem Writable.reads_text {r : Rule} (h : r.Writable) : Reads r r.text := by
  cases r with
  | required => exact reads_required
  | min n =>
      apply reads_bound (by decide) _ h
      intro value
      simp [ofPair?]
  | max n =>
      apply reads_bound (by decide) _ h
      intro value
      simp [ofPair?]
  | pattern p =>
      obtain ⟨hne, hcomma, hlast⟩ := h
      apply reads_pairText (by decide) hne hcomma hlast
      simp [ofPair?, hne]
  | message m =>
      obtain ⟨hne, hcomma, htrimmed⟩ := h
      apply reads_pairText (by decide) hne hcomma htrimmed.last
      simp [ofPair?, htrimmed.trim_eq, hne]
  | default d =>
      obtain ⟨hne, hcomma, htrimmed⟩ := h
      apply reads_pairText (by decide) hne hcomma htrimmed.last
      simp [ofPair?, htrimmed.trim_eq, hne]

/-! ## Tokens that are passed over -/

/-- No rule is made of the token. -/
inductive Skipped (t : List Char) : Prop where
  | blank (h : allBlank t = true)
  /-- Without an equals sign, and not the rule that has none. -/
  | keyless (hrequired : Text.trim t ≠ "required".toList) (hequals : '=' ∉ Text.trim t)
  | unknown {key value : List Char} (htoken : Text.trim t = key ++ '=' :: value) (hkey : '=' ∉ key)
      (hunknown : String.ofList (Text.trim key) ∉ keys)
  /-- A bound that is no integer, or one that does not fit. -/
  | malformed {key value : List Char} (htoken : Text.trim t = key ++ '=' :: value)
      (hkey : '=' ∉ key) (hbound : String.ofList (Text.trim key) ∈ ["min", "max"])
      (hvalue : ∀ n, Text.Numeral (Text.trim value) n → Text.fitsInt64 n = false)
  | valueless {key : List Char} (htoken : Text.trim t = key ++ ['=']) (hkey : '=' ∉ key)
      (htext : String.ofList (Text.trim key) ∈ ["pattern", "message", "default"])

/-- A key that is none makes nothing of any value. -/
theorem ofPair?_of_notMem {key : List Char} (hkey : String.ofList key ∉ keys)
    (value : List Char) : ofPair? key value = none := by
  simp only [keys, List.mem_cons, List.not_mem_nil, or_false, not_or] at hkey
  unfold ofPair?
  split <;> simp_all

theorem Skipped.ofToken?_eq_none {t : List Char} (h : Skipped t) :
    ofToken? (Text.trim t) = none := by
  have hnil : Text.trim [] = [] := rfl
  cases h with
  | blank h =>
      rw [Text.trim_of_allBlank h]
      rfl
  | keyless hrequired hequals =>
      rw [ofToken?, if_neg hrequired, Text.splitFirst_char_eq_none_iff.2 hequals]
      rfl
  | unknown htoken hkey hunknown =>
      rw [htoken, ofToken?_append hkey]
      exact ofPair?_of_notMem hunknown _
  | malformed htoken hkey hbound hvalue =>
      have hnone := Text.readInt64?_eq_none_iff.2 hvalue
      rw [htoken, ofToken?_append hkey]
      simp only [List.mem_cons, List.not_mem_nil, or_false] at hbound
      rcases hbound with hmin | hmax
      · simp [ofPair?, hmin, hnone]
      · simp [ofPair?, hmax, hnone]
  | valueless htoken hkey htext =>
      rw [htoken, ofToken?_append hkey]
      simp only [List.mem_cons, List.not_mem_nil, or_false] at htext
      rcases htext with hpattern | hmessage | hdefault
      · simp [ofPair?, hpattern]
      · simp [ofPair?, hmessage, hnil]
      · simp [ofPair?, hdefault, hnil]

/-- Since tokens are trimmed, a value that is blank is empty. -/
theorem eq_nil_of_trim_eq_nil {t key value : List Char} (htoken : Text.trim t = key ++ '=' :: value)
    (hnil : Text.trim value = []) : value = [] := by
  by_contra hne
  have hlast : value.getLast? = some (value.getLast hne) := List.getLast?_eq_some_getLast hne
  have hblank : isBlank (value.getLast hne) = true :=
    List.all_eq_true.1 (Text.trim_eq_nil_iff.1 hnil) _ (List.getLast_mem hne)
  have hnonblank : isBlank (value.getLast hne) = false := by
    apply (Text.trimmed_trim t).last
    rw [htoken, List.getLast?_append_of_ne_nil _ (List.cons_ne_nil '=' value),
      ← List.singleton_append, List.getLast?_append_of_ne_nil _ hne, hlast]
    rfl
  rw [hblank] at hnonblank
  cases hnonblank

/-- A pair that makes no rule has an unknown key, a malformed number or no value. -/
theorem skipped_of_ofPair? {t key value : List Char} (htoken : Text.trim t = key ++ '=' :: value)
    (hkey : '=' ∉ key) (hpair : ofPair? (Text.trim key) value = none) : Skipped t := by
  have hvalueless : String.ofList (Text.trim key) ∈ ["pattern", "message", "default"] →
      Text.trim value = [] → Skipped t := by
    intro htext hnil
    obtain rfl := eq_nil_of_trim_eq_nil htoken hnil
    exact .valueless htoken hkey htext
  have hmalformed : String.ofList (Text.trim key) ∈ ["min", "max"] →
      Text.readInt64? (Text.trim value) = none → Skipped t := by
    intro hbound hnone
    exact .malformed htoken hkey hbound (Text.readInt64?_eq_none_iff.1 hnone)
  by_cases hknown : String.ofList (Text.trim key) ∈ keys
  · simp only [keys, List.mem_cons, List.not_mem_nil, or_false] at hknown
    rcases hknown with hmin | hmax | hpattern | hmessage | hdefault
    · apply hmalformed (by simp [hmin])
      simpa [ofPair?, hmin] using hpair
    · apply hmalformed (by simp [hmax])
      simpa [ofPair?, hmax] using hpair
    · have hempty : value = [] := by
        simpa [ofPair?, hpattern] using hpair
      apply hvalueless (by simp [hpattern])
      rw [hempty]
      rfl
    · apply hvalueless (by simp [hmessage])
      simpa [ofPair?, hmessage] using hpair
    · apply hvalueless (by simp [hdefault])
      simpa [ofPair?, hdefault] using hpair
  · exact .unknown htoken hkey hknown

theorem skipped_iff {t : List Char} : Skipped t ↔ ofToken? (Text.trim t) = none := by
  constructor
  · exact Skipped.ofToken?_eq_none
  · intro hnone
    unfold ofToken? at hnone
    split at hnone
    case isTrue hrequired => cases hnone
    case isFalse hrequired =>
        cases hsplit : Text.splitFirst ['='] (Text.trim t) with
        | none => exact .keyless hrequired (Text.splitFirst_char_eq_none_iff.1 hsplit)
        | some parts =>
            obtain ⟨key, value⟩ := parts
            obtain ⟨htoken, hkey⟩ := Text.splitFirst_char_eq_some_iff.1 hsplit
            apply skipped_of_ofPair? htoken hkey
            simpa [hsplit] using hnone

/-! ## Lists -/

/-- What a list says is what its tokens say, one after another. -/
theorem parseList_join {pieces : List (List Char)} (h : ∀ p ∈ pieces, ',' ∉ p) :
    parseList (Text.join [','] pieces) = pieces.filterMap fun p => ofToken? (Text.trim p) := by
  cases pieces with
  | nil => rfl
  | cons p ps =>
      have hcut : Text.splitOnChar ',' (Text.join [','] (p :: ps)) = p :: ps :=
        Text.splitOnChar_join (List.cons_ne_nil p ps) h
      have hblank : ∀ t : List Char,
          (if (!t.isEmpty) = true then ofToken? t else none) = ofToken? t := by
        intro t
        cases t <;> rfl
      rw [parseList, Text.commaList, hcut, List.filterMap_filter, List.filterMap_map]
      simp only [hblank]
      rfl

/-- The tokens of a list in which some rules are written, with blanks around them and with tokens
between them that are passed over. -/
inductive Spells : List (List Char) → List Rule → Prop where
  | nil : Spells [] []
  | rule {before after : List Char} {r : Rule} {pieces : List (List Char)} {rules : List Rule}
      (hbefore : allBlank before = true) (hafter : allBlank after = true)
      (h : Spells pieces rules) : Spells ((before ++ r.text ++ after) :: pieces) (r :: rules)
  | skipped {t : List Char} {pieces : List (List Char)} {rules : List Rule} (ht : Skipped t)
      (hcomma : ',' ∉ t) (h : Spells pieces rules) : Spells (t :: pieces) rules

namespace Spells

variable {pieces : List (List Char)} {rules : List Rule}

theorem comma_notMem (h : Spells pieces rules) (hrules : ∀ r ∈ rules, r.Writable) :
    ∀ p ∈ pieces, ',' ∉ p := by
  induction h with
  | nil => simp
  | @rule before after r pieces rules hbefore hafter h ih =>
      have hr := (hrules r List.mem_cons_self).reads_text
      have hrest := ih fun q hq => hrules q (List.mem_cons_of_mem r hq)
      simp only [List.forall_mem_cons, List.mem_append, not_or]
      exact ⟨⟨⟨Text.comma_notMem_of_allBlank hbefore, hr.comma⟩,
        Text.comma_notMem_of_allBlank hafter⟩, hrest⟩
  | skipped ht hcomma h ih => exact List.forall_mem_cons.2 ⟨hcomma, ih hrules⟩

/-- Token by token: a rule is found, and what is passed over adds nothing. -/
theorem filterMap_ofToken? (h : Spells pieces rules) (hrules : ∀ r ∈ rules, r.Writable) :
    (pieces.filterMap fun p => ofToken? (Text.trim p)) = rules := by
  induction h with
  | nil => rfl
  | @rule before after r pieces rules hbefore hafter h ih =>
      have hr := (hrules r List.mem_cons_self).reads_text
      have hrest := ih fun q hq => hrules q (List.mem_cons_of_mem r hq)
      have htoken : ofToken? (Text.trim (before ++ r.text ++ after)) = some r := by
        rw [Text.trim_padded hbefore hafter, hr.trimmed.trim_eq, hr.token]
      rw [List.filterMap_cons, htoken, hrest]
  | skipped ht hcomma h ih =>
      rw [List.filterMap_cons, ht.ofToken?_eq_none]
      exact ih hrules

end Spells
end Rule

/-- Rules are read back from a list in which they are written, in their order and nothing else with
them.  Bounds may be any integers of 64 bits; patterns, messages and defaults have no comma, and no
blanks where they would be lost; every token may have blanks around it; and tokens that are passed
over may stand anywhere: blank ones, those of no known key, bounds that are no integers or do not fit,
and texts that are missing. -/
theorem parseList_of_spells {pieces : List (List Char)} {rules : List Rule}
    (h : Rule.Spells pieces rules) (hrules : ∀ r ∈ rules, r.Writable) :
    Rule.parseList (Text.join [','] pieces) = rules := by
  rw [Rule.parseList_join (h.comma_notMem hrules)]
  exact h.filterMap_ofToken? hrules

/-- Both ends of the range and one beyond, equals signs and key words in values, and tokens that are
passed over at the front, in between and at the end. -/
theorem parseList_of_spells_noisy :
    Rule.parseList (Text.join [','] (["", " required ", "min=-9223372036854775808",
        "max=9223372036854775808", " foo=1", "max=9223372036854775807 ", "pattern= a=b:required",
        "pattern=", "message=max=3", "REQUIRED"].map String.toList)) =
      [.required, .min Text.int64Min, .max Text.int64Max, .pattern " a=b:required",
        .message "max=3"] := by
  have hpassed : ∀ t ∈ ["", "max=9223372036854775808", " foo=1", "pattern=", "REQUIRED"],
      Rule.ofToken? (Text.trim t.toList) = none ∧ ',' ∉ t.toList := by
    decide
  have hskip : ∀ t ∈ ["", "max=9223372036854775808", " foo=1", "pattern=", "REQUIRED"],
      ∀ {pieces : List (List Char)} {rules : List Rule}, Rule.Spells pieces rules →
        Rule.Spells (t.toList :: pieces) rules := by
    intro t ht pieces rules hrest
    obtain ⟨hnone, hcomma⟩ := hpassed t ht
    exact .skipped (Rule.skipped_iff.2 hnone) hcomma hrest
  have hwrite : ∀ (t : String) (before : List Char) (r : Rule) (after : List Char),
      allBlank before = true → allBlank after = true → t.toList = before ++ r.text ++ after →
        ∀ {pieces : List (List Char)} {rules : List Rule}, Rule.Spells pieces rules →
          Rule.Spells (t.toList :: pieces) (r :: rules) := by
    intro t before r after hbefore hafter ht pieces rules hrest
    rw [ht]
    exact .rule hbefore hafter hrest
  apply parseList_of_spells
  · apply hskip "" (by decide)
    apply hwrite " required " [' '] _ [' '] rfl rfl rfl
    apply hwrite "min=-9223372036854775808" [] (.min Text.int64Min) [] rfl rfl (by decide +kernel)
    apply hskip "max=9223372036854775808" (by decide)
    apply hskip " foo=1" (by decide)
    apply hwrite "max=9223372036854775807 " [] (.max Text.int64Max) [' '] rfl rfl
      (by decide +kernel)
    apply hwrite "pattern= a=b:required" [] _ [] rfl rfl rfl
    apply hskip "pattern=" (by decide)
    apply hwrite "message=max=3" [] _ [] rfl rfl rfl
    apply hskip "REQUIRED" (by decide)
    exact .nil
  · intro r hr
    simp only [List.mem_cons, List.not_mem_nil, or_false] at hr
    rcases hr with rfl | rfl | rfl | rfl | rfl
    · trivial
    · rfl
    · rfl
    · refine ⟨by decide, by decide, ?_⟩
      rintro c ⟨⟩
      rfl
    · refine ⟨by decide, by decide, ⟨?_, ?_⟩⟩ <;> (rintro c ⟨⟩; rfl)

end FormTemplate
