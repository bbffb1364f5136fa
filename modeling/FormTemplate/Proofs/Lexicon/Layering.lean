import FormTemplate.Configuration
import FormTemplate.Proofs.Pattern.Quoting

/-!
# Layering — a profile over the tables that it starts from

A lexicon grows in two ways: keywords go behind those there are, and labels take the place of
earlier ones.  Since the first keyword that matches decides, what was there before keeps its say, and
a profile can only speak for the names that nothing matched.

* `TypeKeyword.isUsable`, `OptionKeyword.isUsable` — entries that a table takes up;
* `Lexicon.Extension`, `Lexicon.extend` — a call that extends a lexicon, and what it makes of one;
* `Lexicon.Extends` — usable keywords behind those of another lexicon, which one call and any
  sequence of calls amount to;
* `Dictionary.getElem?_override` — of several entries for a name the last one counts;
* `Profile.inferType_lexicon` and its siblings — the answers of a profile's lexicon;
* `layered_over_base` — all of this for the dialect that a profile resolves to.
-/

namespace FormTemplate

/-! ## Entries that are taken up -/

/-- A blank keyword would match every name, or every name with a blank. -/
def TypeKeyword.isUsable (k : TypeKeyword) : Bool :=
  !Text.blankString k.keyword

def OptionKeyword.isUsable (k : OptionKeyword) : Bool :=
  !Text.blankString k.keyword && !k.choices.isEmpty

namespace Lexicon

/-- No table has an entry that would have been dropped. -/
structure Usable (l : Lexicon) : Prop where
  typeKeywords : ∀ k ∈ l.typeKeywords, k.isUsable = true
  optionKeywords : ∀ k ∈ l.optionKeywords, k.isUsable = true

theorem usable_empty : Lexicon.empty.Usable :=
  ⟨by simp [empty], by simp [empty]⟩

theorem usable_builtin : Lexicon.builtin.Usable :=
  ⟨by decide, by decide⟩

/-! ## Calls that extend a lexicon -/

inductive Extension where
  | label (name label : String)
  | labels (entries : List (String × String))
  | typeKeyword (keyword : String) (type : FieldType)
  | typeKeywords (ks : List TypeKeyword)
  | optionKeyword (keyword : String) (choices : List String)
  | optionKeywords (ks : List OptionKeyword)

def extend (l : Lexicon) : Extension → Lexicon
  | .label name label => l.withLabel name label
  | .labels entries => l.withLabels entries
  | .typeKeyword keyword type => l.withTypeKeyword keyword type
  | .typeKeywords ks => l.withTypeKeywords ks
  | .optionKeyword keyword choices => l.withOptionKeyword keyword choices
  | .optionKeywords ks => l.withOptionKeywords ks

/-- The second lexicon has the keywords of the first, and usable ones behind them. -/
structure Extends (l l' : Lexicon) : Prop where
  typeKeywords : ∃ added, l'.typeKeywords = l.typeKeywords ++ added ∧
    ∀ k ∈ added, TypeKeyword.isUsable k = true
  optionKeywords : ∃ added, l'.optionKeywords = l.optionKeywords ++ added ∧
    ∀ k ∈ added, OptionKeyword.isUsable k = true

namespace Extends

variable {l l' l'' : Lexicon}

/-- Lexicons with the same keywords; their labels do not matter. -/
theorem of_eq (htypes : l'.typeKeywords = l.typeKeywords)
    (hoptions : l'.optionKeywords = l.optionKeywords) : l.Extends l' :=
  ⟨⟨[], by simp [htypes]⟩, ⟨[], by simp [hoptions]⟩⟩

theorem trans (h : l.Extends l') (h' : l'.Extends l'') : l.Extends l'' := by
  obtain ⟨types, htypes, htypesUsable⟩ := h.typeKeywords
  obtain ⟨types', htypes', htypesUsable'⟩ := h'.typeKeywords
  obtain ⟨options, hoptions, hoptionsUsable⟩ := h.optionKeywords
  obtain ⟨options', hoptions', hoptionsUsable'⟩ := h'.optionKeywords
  refine ⟨⟨types ++ types', ?_, ?_⟩, ⟨options ++ options', ?_, ?_⟩⟩
  · rw [htypes', htypes, List.append_assoc]
  · intro k hk
    exact (List.mem_append.1 hk).elim (htypesUsable k) (htypesUsable' k)
  · rw [hoptions', hoptions, List.append_assoc]
  · intro k hk
    exact (List.mem_append.1 hk).elim (hoptionsUsable k) (hoptionsUsable' k)

theorem usable (h : l.Extends l') (hl : l.Usable) : l'.Usable := by
  obtain ⟨types, htypes, htypesUsable⟩ := h.typeKeywords
  obtain ⟨options, hoptions, hoptionsUsable⟩ := h.optionKeywords
  constructor
  · intro k hk
    rw [htypes] at hk
    exact (List.mem_append.1 hk).elim (hl.typeKeywords k) (htypesUsable k)
  · intro k hk
    rw [hoptions] at hk
    exact (List.mem_append.1 hk).elim (hl.optionKeywords k) (hoptionsUsable k)

end Extends

theorem extends_withTypeKeywords (ks : List TypeKeyword) (l : Lexicon) :
    l.Extends (l.withTypeKeywords ks) :=
  ⟨⟨ks.filter TypeKeyword.isUsable, rfl, fun _ hk => (List.mem_filter.1 hk).2⟩,
    ⟨[], by simp [withTypeKeywords]⟩⟩

theorem extends_withOptionKeywords (ks : List OptionKeyword) (l : Lexicon) :
    l.Extends (l.withOptionKeywords ks) :=
  ⟨⟨[], by simp [withOptionKeywords]⟩,
    ⟨ks.filter OptionKeyword.isUsable, rfl, fun _ hk => (List.mem_filter.1 hk).2⟩⟩

/-- One call. -/
theorem extends_extend (l : Lexicon) (call : Extension) : l.Extends (l.extend call) := by
  cases call with
  | label name label => exact .of_eq rfl rfl
  | labels entries => exact .of_eq rfl rfl
  | typeKeyword keyword type => exact extends_withTypeKeywords _ l
  | typeKeywords ks => exact extends_withTypeKeywords ks l
  | optionKeyword keyword choices => exact extends_withOptionKeywords _ l
  | optionKeywords ks => exact extends_withOptionKeywords ks l

/-- Any sequence of calls. -/
theorem extends_foldl (l : Lexicon) (calls : List Extension) :
    l.Extends (calls.foldl extend l) := by
  induction calls generalizing l with
  | nil => exact .of_eq rfl rfl
  | cons call calls ih => exact (extends_extend l call).trans (ih (l.extend call))

end Lexicon

/-! ## Labels -/

namespace Dictionary

variable {α : Type}

/-- Of several entries for a name the last one counts, and without any the old entry. -/
theorem getElem?_override (d : Dictionary α) (entries : List (String × α)) (n : String) :
    (override d entries)[n]? = (entries.reverse.lookup n).or d[n]? := by
  induction entries generalizing d with
  | nil => rfl
  | cons e entries ih =>
      obtain ⟨name, value⟩ := e
      have hfirst : (d.insert name value)[n]? = ([(name, value)].lookup n).or d[n]? := by
        rw [Std.ExtTreeMap.getElem?_insert, List.lookup_cons]
        by_cases hn : n = name
        · simp [hn]
        · simp [beq_eq_false_iff_ne.2 hn, Ne.symm hn]
      have hrest : override d ((name, value) :: entries) =
          override (d.insert name value) entries := rfl
      rw [hrest, ih, hfirst, List.reverse_cons, List.lookup_append, Option.or_assoc]

theorem getElem?_override_eq_or (d : Dictionary α) (entries : List (String × α)) (n : String) :
    (override d entries)[n]? = ((ofEntries entries)[n]?).or d[n]? := by
  have hentries : (ofEntries entries)[n]? = entries.reverse.lookup n := by
    have hempty := getElem?_override (∅ : Dictionary α) entries n
    rwa [Std.ExtTreeMap.getElem?_empty, Option.or_none] at hempty
  rw [getElem?_override, hentries]

end Dictionary

/-! ## The lexicon of a profile -/

namespace Profile

/-- The tables that a profile's own are layered over. -/
def base (p : Profile) : Lexicon :=
  if p.replacesBuiltin then .empty else .builtin

variable (p : Profile)

theorem typeKeywords_lexicon :
    p.lexicon.typeKeywords = p.base.typeKeywords ++ p.typeKeywords.filter TypeKeyword.isUsable :=
  rfl

theorem optionKeywords_lexicon :
    p.lexicon.optionKeywords =
      p.base.optionKeywords ++ p.optionKeywords.filter OptionKeyword.isUsable :=
  rfl

theorem labels_lexicon : p.lexicon.labels = p.base.labels.override p.labels := rfl

theorem inferType_lexicon (name : String) :
    p.lexicon.inferType name =
      (((p.base.typeKeywords.find? fun k => Lexicon.mentions name.toList k.keyword).or
        (p.typeKeywords.find? fun k => k.isUsable && Lexicon.mentions name.toList k.keyword)).map
          TypeKeyword.type).getD .text := by
  rw [Lexicon.inferType, typeKeywords_lexicon, List.find?_append, List.find?_filter]
  simp only [Bool.decide_and, Bool.decide_eq_true]

theorem optionsFor?_lexicon (name : String) :
    p.lexicon.optionsFor? name =
      (p.base.optionsFor? name).or
        ((p.optionKeywords.find? fun k =>
          k.isUsable && Lexicon.mentions name.toList k.keyword).map OptionKeyword.choices) := by
  rw [Lexicon.optionsFor?, optionKeywords_lexicon, List.find?_append, List.find?_filter,
    Option.map_or, ← Lexicon.optionsFor?]
  simp only [Bool.decide_and, Bool.decide_eq_true]

theorem keywordType?_lexicon (token : List Char) :
    p.lexicon.keywordType? token =
      (p.base.keywordType? token).or
        ((p.typeKeywords.find? fun k =>
          k.isUsable && Text.sameToken k.keyword.toList (Text.trim token)).map
            TypeKeyword.type) := by
  rw [Lexicon.keywordType?, typeKeywords_lexicon, List.find?_append, List.find?_filter,
    Option.map_or, ← Lexicon.keywordType?]
  simp only [Bool.decide_and, Bool.decide_eq_true]

theorem labelFor_lexicon (name : String) :
    p.lexicon.labelFor name =
      ((Dictionary.ofEntries p.labels)[name]?).getD (p.base.labelFor name) := by
  rw [Lexicon.labelFor, labels_lexicon, Dictionary.getElem?_override_eq_or]
  cases (Dictionary.ofEntries p.labels)[name]? with
  | some label => rfl
  | none => rfl

/-- A profile that adds nothing leaves the tables as they are. -/
theorem lexicon_eq_base (htypes : ∀ k ∈ p.typeKeywords, k.isUsable = false)
    (hoptions : ∀ k ∈ p.optionKeywords, k.isUsable = false) (hlabels : p.labels = []) :
    p.lexicon = p.base := by
  have hnotypes : p.typeKeywords.filter TypeKeyword.isUsable = [] := by
    simpa using htypes
  have hnooptions : p.optionKeywords.filter OptionKeyword.isUsable = [] := by
    simpa using hoptions
  have htables := And.intro p.typeKeywords_lexicon p.optionKeywords_lexicon
  rw [hnotypes, hnooptions, List.append_nil, List.append_nil] at htables
  have hsame : p.lexicon.labels = p.base.labels := by
    rw [labels_lexicon, hlabels]
    rfl
  cases hl : p.lexicon
  cases hb : p.base
  simp_all

end Profile

/-! ## The dialect of a profile -/

theorem Delimiters.make_eq_ok_iff {opening closing separator : String} {d : Delimiters} :
    make opening closing separator = .ok d ↔
      d.opening = opening.toList ∧ d.closing = closing.toList ∧
        d.separator = separator.toList ∧
          ∃ q, Pattern.compile (patternText opening closing) = .ok q := by
  constructor
  · intro h
    unfold make at h
    split at h
    · cases h
    · split at h
      · cases h
      · split at h
        · cases h
        · split at h
          case h_1 => cases h
          case h_2 q hq =>
            cases h
            exact ⟨rfl, rfl, rfl, q, hq⟩
  · rintro ⟨hopening, hclosing, hseparator, q, hq⟩
    have ho := hopening ▸ d.opening_ne
    have hc := hclosing ▸ d.closing_ne
    have hs := hseparator ▸ d.separator_ne
    cases d
    simp_all [make]

namespace Profile

variable {p : Profile} {resolved : Dialect}

theorem dialect_eq_ok_iff :
    p.dialect = .ok resolved ↔
      Delimiters.make p.opening p.closing p.separator = .ok resolved.delimiters ∧
        resolved.lexicon = p.lexicon := by
  rw [dialect]
  cases hmake : Delimiters.make p.opening p.closing p.separator with
  | error fault => simp [Except.map]
  | ok d =>
      cases resolved
      simp [Except.map, eq_comm]

theorem exists_dialect_iff :
    (∃ resolved, p.dialect = .ok resolved) ↔
      p.opening ≠ "" ∧ p.closing ≠ "" ∧ p.separator ≠ "" ∧
        ∃ q, Pattern.compile (Delimiters.patternText p.opening p.closing) = .ok q := by
  simp only [dialect_eq_ok_iff, Delimiters.make_eq_ok_iff]
  constructor
  · rintro ⟨resolved, ⟨hopening, hclosing, hseparator, hpattern⟩, -⟩
    refine ⟨?_, ?_, ?_, hpattern⟩
    · rintro hempty
      exact resolved.delimiters.opening_ne (by simp [hopening, hempty])
    · rintro hempty
      exact resolved.delimiters.closing_ne (by simp [hclosing, hempty])
    · rintro hempty
      exact resolved.delimiters.separator_ne (by simp [hseparator, hempty])
  · rintro ⟨hopening, hclosing, hseparator, hpattern⟩
    exact ⟨⟨⟨p.opening.toList, p.closing.toList, p.separator.toList, by simpa using hopening,
      by simpa using hclosing, by simpa using hseparator⟩, p.lexicon⟩, ⟨rfl, rfl, rfl, hpattern⟩, rfl⟩

/-- The size is all that is left to be said against delimiters that are not empty. -/
theorem dialect_eq_tooLarge (hopening : p.opening ≠ "") (hclosing : p.closing ≠ "")
    (hseparator : p.separator ≠ "")
    (hlong : 330000 ≤ p.opening.utf8ByteSize + p.closing.utf8ByteSize) :
    p.dialect = .error (.pattern .tooLarge) := by
  have hlarge := Delimiters.sizeLimit_lt_of_long hlong
  have hcompile := Delimiters.compile_patternText_eq_error_iff.2 ⟨rfl, hlarge⟩
  simp [dialect, Delimiters.make, hopening, hclosing, hseparator, hcompile, Except.map]

end Profile

/-- The configuration that a book of profiles gives has the dialect of its active profile. -/
theorem Configuration.dialect_of_resolve {e : Environment} {asked : Option String} {source : String}
    {b : ProfileBook} {c : Configuration} (h : resolve e asked source b = .ok c) :
    ∃ p, b.profiles.lookup (b.activeName asked) = some p ∧ p.dialect = .ok c.dialect := by
  unfold resolve at h
  split at h
  · cases h
  · split at h
    · cases h
    · cases hp : b.profiles.lookup (b.activeName asked) with
      | none => simp [hp] at h
      | some p =>
          cases hdialect : p.dialect with
          | error fault => simp [hp, hdialect] at h
          | ok dialect =>
              simp only [hp, hdialect] at h
              cases hlogging : expandFile e b.logging with
              | error fault =>
                  rw [hlogging] at h
                  cases h
              | ok logging =>
                  rw [hlogging] at h
                  cases h
                  exact ⟨p, rfl, hdialect⟩

/-! ## A profile over its base -/

/-- A profile resolves if none of its delimiters is empty and the pattern of its placeholders is
usable, which it is for delimiters of up to 320000 bytes together; its dialect has these delimiters.  A
type or a list of choices comes from the tables that the profile starts from if they have one for the
name, and then from the first entry of the profile that matches and is usable; a keyword that stands
for a type is found in the same order.  Labels are the other way round: a label of the profile comes
before all others, and is for its exact name only.

No sequence of calls brings a blank keyword or an empty list of choices into a table, and a profile of
which nothing is left parses and renders every text as its base does. -/
theorem layered_over_base (p : Profile) :
    ((∃ resolved, p.dialect = .ok resolved) ↔
        p.opening ≠ "" ∧ p.closing ≠ "" ∧ p.separator ≠ "" ∧
          ∃ q, Pattern.compile (Delimiters.patternText p.opening p.closing) = .ok q) ∧
      (p.opening.utf8ByteSize + p.closing.utf8ByteSize ≤ 320000 →
        ∃ q, Pattern.compile (Delimiters.patternText p.opening p.closing) = .ok q) ∧
      (∀ (e : Environment) (asked : Option String) (source : String) (b : ProfileBook)
          (c : Configuration), b.profiles.lookup (b.activeName asked) = some p →
        Configuration.resolve e asked source b = .ok c → p.dialect = .ok c.dialect) ∧
      (∀ resolved, p.dialect = .ok resolved →
        let l := resolved.lexicon
        let plain : Dialect := ⟨resolved.delimiters, p.base⟩
        resolved.delimiters.opening = p.opening.toList ∧
          resolved.delimiters.closing = p.closing.toList ∧
          resolved.delimiters.separator = p.separator.toList ∧
          (∀ name : String,
            let mentioned := Lexicon.mentions name.toList
            ((∃ k ∈ p.base.typeKeywords, mentioned k.keyword = true) →
                l.inferType name = p.base.inferType name) ∧
              ((∀ k ∈ p.base.typeKeywords, mentioned k.keyword = false) →
                l.inferType name =
                  ((p.typeKeywords.find? fun k => k.isUsable && mentioned k.keyword).map
                    TypeKeyword.type).getD .text) ∧
              l.optionsFor? name = (p.base.optionsFor? name).or
                ((p.optionKeywords.find? fun k => k.isUsable && mentioned k.keyword).map
                  OptionKeyword.choices) ∧
              l.labelFor name =
                ((Dictionary.ofEntries p.labels)[name]?).getD (p.base.labelFor name)) ∧
          (∀ token : List Char,
            l.keywordType? token = (p.base.keywordType? token).or
              ((p.typeKeywords.find? fun k =>
                k.isUsable && Text.sameToken k.keyword.toList (Text.trim token)).map
                  TypeKeyword.type)) ∧
          ((∀ k ∈ p.typeKeywords, k.isUsable = false) →
            (∀ k ∈ p.optionKeywords, k.isUsable = false) → p.labels = [] →
              ∀ (content : String) (values : Values),
                resolved.parse content = plain.parse content ∧
                  resolved.render content values = plain.render content values)) ∧
      (∀ (l : Lexicon) (calls : List Lexicon.Extension),
        l.Extends (calls.foldl Lexicon.extend l)) ∧
      ∀ calls : List Lexicon.Extension,
        (calls.foldl Lexicon.extend .builtin).Usable ∧ (calls.foldl Lexicon.extend .empty).Usable := by
  refine ⟨Profile.exists_dialect_iff, Delimiters.exists_compile_patternText, ?_, ?_,
    Lexicon.extends_foldl, ?_⟩
  · intro e asked source b c hp hc
    obtain ⟨q, hq, hdialect⟩ := Configuration.dialect_of_resolve hc
    rw [hp] at hq
    cases hq
    exact hdialect
  · intro resolved hresolved
    obtain ⟨hmake, hlexicon⟩ := Profile.dialect_eq_ok_iff.1 hresolved
    obtain ⟨hopening, hclosing, hseparator, -⟩ := Delimiters.make_eq_ok_iff.1 hmake
    simp only [hlexicon]
    refine ⟨hopening, hclosing, hseparator, ?_, p.keywordType?_lexicon, ?_⟩
    · intro name
      refine ⟨?_, ?_, p.optionsFor?_lexicon name, p.labelFor_lexicon name⟩
      · -- the first match is among the keywords that were there before
        rintro ⟨k, hk, hmentions⟩
        have hfound : (p.base.typeKeywords.find? fun k =>
            Lexicon.mentions name.toList k.keyword).isSome = true :=
          List.find?_isSome.2 ⟨k, hk, hmentions⟩
        obtain ⟨first, hfirst⟩ := Option.isSome_iff_exists.1 hfound
        rw [p.inferType_lexicon, Lexicon.inferType, hfirst]
        rfl
      · intro hnone
        have hnotfound : (p.base.typeKeywords.find? fun k =>
            Lexicon.mentions name.toList k.keyword) = none :=
          List.find?_eq_none.2 fun k hk => by simp [hnone k hk]
        rw [p.inferType_lexicon, hnotfound, Option.none_or]
    · intro htypes hoptions hlabels content values
      have hbase := p.lexicon_eq_base htypes hoptions hlabels
      constructor
      · rw [Dialect.parse, Dialect.parse, hlexicon, hbase]
      · rfl
  · intro calls
    exact ⟨(Lexicon.extends_foldl _ calls).usable Lexicon.usable_builtin,
      (Lexicon.extends_foldl _ calls).usable Lexicon.usable_empty⟩

/-- No delimiter is empty and there is nothing to layer, and yet the profile does not resolve. -/
theorem layered_over_base_fails_for_long :
    let p : Profile := { closing := Text.repeated 330000 'a' }
    p.opening ≠ "" ∧ p.closing ≠ "" ∧ p.separator ≠ "" ∧
      p.labels = [] ∧ p.typeKeywords = [] ∧ p.optionKeywords = [] ∧
        p.dialect = .error (.pattern .tooLarge) ∧ ¬ ∃ resolved, p.dialect = .ok resolved := by
  intro p
  have hopening : p.opening ≠ "" := by
    decide
  have hclosing : p.closing ≠ "" := Text.repeated_ne_empty (by decide) 'a'
  have hseparator : p.separator ≠ "" := by
    decide
  have hlong : 330000 ≤ p.opening.utf8ByteSize + p.closing.utf8ByteSize := by
    rw [Text.utf8ByteSize_repeated 330000 'a']
    exact Nat.le_add_left _ _
  have hdialect : p.dialect = .error (.pattern .tooLarge) :=
    Profile.dialect_eq_tooLarge hopening hclosing hseparator hlong
  refine ⟨hopening, hclosing, hseparator, rfl, rfl, rfl, hdialect, ?_⟩
  rintro ⟨resolved, hresolved⟩
  rw [hdialect] at hresolved
  cases hresolved

end FormTemplate
