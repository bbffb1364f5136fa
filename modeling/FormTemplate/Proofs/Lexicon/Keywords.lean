import FormTemplate.Lexicon.Builtin
import FormTemplate.Proofs.Text.Cutting
import FormTemplate.Proofs.Unicode.Lowercase

/-!
# Keywords — the names that a keyword is found in

A keyword belongs to the names that contain it, both in lowercase.  That is weaker than it looks: a
keyword that ends in a capital sigma has a final sigma in lowercase, and inside a longer word the name
has none there.  So a name can have a keyword in it, letter for letter, and not be one of its names.

What holds of all names with a keyword depends on the keyword alone.  If it settles its sigmas, which
it does if it has none, then the type of every name that has it is that of its entry or of one before
it.  If it does not, then there is a name that has it and is not found.

* `Lexicon.mentions_of_same` — a keyword in a name, seen in lowercase;
* `Lexicon.mentions_of_settled`, `Lexicon.exists_not_mentions` — the two kinds of keywords;
* `Lexicon.exists_find?_mentions` — the first match is not behind any match;
* `Lexicon.CountsFor`, `keyword_found_where_settled` — types and choices by keywords;
* `Lexicon.countsFor_builtin` — the keywords of the built-in tables;
* `keyword_missed_in_word` — a name that has a keyword and gets the type for want of one.
-/

namespace FormTemplate

open Unicode (capitalSigma lowercase lowercaseWithin sigmasSettled)

namespace Lexicon

theorem mentions_iff {name : List Char} {keyword : String} :
    mentions name keyword = true ↔ lowercase keyword.toList <:+: lowercase name :=
  Text.contains_iff

/-- A keyword is found where it is the same in lowercase as on its own. -/
theorem mentions_of_same {keyword : String} {x y : List Char}
    (h : lowercaseWithin x.reverse y keyword.toList = lowercase keyword.toList) :
    mentions (x ++ keyword.toList ++ y) keyword = true := by
  rw [mentions_iff, Unicode.lowercase_append, h]
  exact List.infix_append _ _ _

theorem mentions_of_settled {name : List Char} {keyword : String}
    (h : sigmasSettled keyword.toList = true) (hname : keyword.toList <:+: name) :
    mentions name keyword = true := by
  obtain ⟨x, y, rfl⟩ := hname
  exact mentions_of_same (Unicode.lowercaseWithin_of_settled h x.reverse y)

theorem exists_not_mentions {keyword : String} (h : sigmasSettled keyword.toList = false) :
    ∃ name : String, keyword.toList <:+: name.toList ∧
      mentions name.toList keyword = false := by
  obtain ⟨x, y, hmissing⟩ := Unicode.exists_unsettled_context h
  refine ⟨String.ofList (x ++ keyword.toList ++ y), ?_, ?_⟩
  · rw [String.toList_ofList]
    exact List.infix_append x keyword.toList y
  · rw [String.toList_ofList, Bool.eq_false_iff, Ne, mentions_iff]
    exact hmissing

/-- The first match in a table is no later than any match. -/
theorem exists_find?_mentions {α : Type} {f : α → String} {entries before after : List α} {e : α}
    {name : List Char} (htable : entries = before ++ e :: after) (h : mentions name (f e) = true) :
    ∃ k ∈ before ++ [e], (entries.find? fun k => mentions name (f k)) = some k := by
  -- the entries up to this one have a match already
  have hfirst : ((before ++ [e]).find? fun k => mentions name (f k)).isSome = true :=
    List.find?_isSome.2 ⟨e, by simp, h⟩
  obtain ⟨k, hk⟩ := Option.isSome_iff_exists.1 hfirst
  refine ⟨k, List.mem_of_find?_eq_some hk, ?_⟩
  rw [htable, List.append_cons, List.find?_append, hk, Option.some_or]

/-! ## Tables with one entry -/

variable {name keyword : String} (h : mentions name.toList keyword = false)

include h

theorem inferType_withTypeKeyword (type : FieldType) :
    (empty.withTypeKeyword keyword type).inferType name = .text := by
  have hnone : ((empty.withTypeKeyword keyword type).typeKeywords.find? fun k =>
      mentions name.toList k.keyword) = none := by
    rw [List.find?_eq_none]
    simp [withTypeKeyword, withTypeKeywords, empty, h]
  rw [inferType, hnone]
  rfl

theorem optionsFor?_withOptionKeyword (choices : List String) :
    (empty.withOptionKeyword keyword choices).optionsFor? name = none := by
  have hnone : ((empty.withOptionKeyword keyword choices).optionKeywords.find? fun k =>
      mentions name.toList k.keyword) = none := by
    rw [List.find?_eq_none]
    simp [withOptionKeyword, withOptionKeywords, empty, h]
  rw [optionsFor?, hnone]
  rfl

end Lexicon

open Lexicon (mentions)

/-! ## A sigma inside a word and one at its end -/

theorem sigmasSettled_word :
    sigmasSettled "ΜΕΣΟ".toList = true ∧ sigmasSettled "ΤΟΠΟΣ".toList = false := by
  have hinside : "ΜΕΣΟ".toList = ['Μ', 'Ε', capitalSigma, 'Ο'] := by decide +kernel
  have hend : "ΤΟΠΟΣ".toList = ['Τ', 'Ο', 'Π', 'Ο', capitalSigma] := by decide +kernel
  have hletter : ∀ t, Unicode.firstCased? ('Ο' :: t) = some true :=
    Unicode.firstCased?_of_letter (by simp [Unicode.letterRanges])
  have hnothing : Unicode.firstCased? [] = none := rfl
  have hopen : Unicode.settles (some true) none = false := rfl
  rw [hinside, hend]
  constructor
  · simp [sigmasSettled, Unicode.sigmasSettledAfter, Unicode.settles_some_true, hletter,
      capitalSigma]
  · simp [sigmasSettled, Unicode.sigmasSettledAfter, hletter, hnothing, hopen]

theorem not_mentions_in_word : mentions "ΤΟΠΟΣΗΜΟ".toList "ΤΟΠΟΣ" = false := by
  have hkeyword : "ΤΟΠΟΣ".toList = "ΤΟΠΟ".toList ++ capitalSigma :: [] := by decide +kernel
  have hname : "ΤΟΠΟΣΗΜΟ".toList = "ΤΟΠΟ".toList ++ capitalSigma :: "ΗΜΟ".toList := by
    decide +kernel
  have hbefore : "ΤΟΠΟ".toList.reverse = 'Ο' :: "ΠΟΤ".toList := by decide +kernel
  have hafter : "ΗΜΟ".toList = 'Η' :: "ΜΟ".toList := by decide +kernel
  have hletter : ∀ c ∈ ['Ο', 'Η'], ∀ t, Unicode.startsCased (c :: t) = true := by
    intro c hc t
    have hcovers : Unicode.Covers Unicode.letterRanges c.toNat := by
      simp only [List.mem_cons, List.not_mem_nil, or_false] at hc
      rcases hc with rfl | rfl <;> simp [Unicode.letterRanges]
    rw [Unicode.startsCased_eq, Unicode.firstCased?_of_letter hcovers, Option.getD_some]
  have hfinal : Unicode.sigmaForm "ΤΟΠΟ".toList.reverse [] = Unicode.finalSigma := by
    rw [hbefore, Unicode.sigmaForm, hletter 'Ο' (by decide)]
    rfl
  have hsmall : Unicode.sigmaForm "ΤΟΠΟ".toList.reverse "ΗΜΟ".toList = Unicode.smallSigma := by
    rw [hafter, Unicode.sigmaForm, hletter 'Η' (by decide), Bool.not_true, Bool.and_false]
    rfl
  rw [mentions, hkeyword, hname, Unicode.lowercase_sigma, Unicode.lowercase_sigma, hfinal, hsmall]
  decide +kernel

/-! ## Names with a keyword in them -/

/-- Wherever the keyword's entry stands in a table, the type of the name is that of this entry or of
one before it, and never that of a later entry or of no entry; and so are its choices. -/
structure Lexicon.CountsFor (keyword name : String) : Prop where
  type : ∀ (l : Lexicon) (before after : List TypeKeyword) (type : FieldType),
    l.typeKeywords = before ++ ⟨keyword, type⟩ :: after →
      ∃ k ∈ before ++ [⟨keyword, type⟩],
        (l.typeKeywords.find? fun k => mentions name.toList k.keyword) = some k ∧
          l.inferType name = k.type
  choices : ∀ (l : Lexicon) (before after : List OptionKeyword) (choices : List String),
    l.optionKeywords = before ++ ⟨keyword, choices⟩ :: after →
      ∃ k ∈ before ++ [⟨keyword, choices⟩],
        (l.optionKeywords.find? fun k => mentions name.toList k.keyword) = some k ∧
          l.optionsFor? name = some k.choices

theorem Lexicon.countsFor_of_mentions {keyword name : String}
    (h : mentions name.toList keyword = true) : CountsFor keyword name := by
  constructor
  · intro l before after type htable
    obtain ⟨k, hk, hfind⟩ := exists_find?_mentions (f := TypeKeyword.keyword) htable h
    refine ⟨k, hk, hfind, ?_⟩
    rw [inferType, hfind]
    rfl
  · intro l before after choices htable
    obtain ⟨k, hk, hfind⟩ := exists_find?_mentions (f := OptionKeyword.keyword) htable h
    refine ⟨k, hk, hfind, ?_⟩
    rw [optionsFor?, hfind]
    rfl

/-- No keyword of the built-in tables has a sigma to settle. -/
theorem Lexicon.countsFor_builtin {name : String} :
    (∀ k ∈ builtin.typeKeywords, k.keyword.toList <:+: name.toList → CountsFor k.keyword name) ∧
      ∀ k ∈ builtin.optionKeywords, k.keyword.toList <:+: name.toList →
        CountsFor k.keyword name := by
  have htypes : ∀ k ∈ builtinTypeKeywords, capitalSigma ∉ k.keyword.toList := by
    decide +kernel
  have hchoices : ∀ k ∈ builtinOptionKeywords, capitalSigma ∉ k.keyword.toList := by
    decide +kernel
  constructor
  · intro k hk hname
    have hsettled := Unicode.sigmasSettled_of_notMem (htypes k hk)
    exact countsFor_of_mentions (mentions_of_settled hsettled hname)
  · intro k hk hname
    have hsettled := Unicode.sigmasSettled_of_notMem (hchoices k hk)
    exact countsFor_of_mentions (mentions_of_settled hsettled hname)

/-- A keyword counts for a name that has it if in lowercase it is the same inside the name as on its
own.  That is so in all names if the keyword settles its capital sigmas itself.  There is no weaker
condition on keywords: for any other one there is a name that has it and in which it is not found, so
that a table with nothing but the keyword says nothing about the name. -/
theorem keyword_found_where_settled (keyword : String) :
    (∀ (name : String) (x y : List Char), name.toList = x ++ keyword.toList ++ y →
        lowercaseWithin x.reverse y keyword.toList = lowercase keyword.toList →
          Lexicon.CountsFor keyword name) ∧
      (sigmasSettled keyword.toList = true →
        ∀ name : String, keyword.toList <:+: name.toList → Lexicon.CountsFor keyword name) ∧
      (sigmasSettled keyword.toList = false →
        ∃ name : String, keyword.toList <:+: name.toList ∧
          (∀ type, (Lexicon.empty.withTypeKeyword keyword type).inferType name = .text) ∧
          ∀ choices, (Lexicon.empty.withOptionKeyword keyword choices).optionsFor? name = none) := by
  refine ⟨?_, ?_, ?_⟩
  · intro name x y hname hsame
    apply Lexicon.countsFor_of_mentions
    rw [hname]
    exact Lexicon.mentions_of_same hsame
  · intro hsettled name hname
    exact Lexicon.countsFor_of_mentions (Lexicon.mentions_of_settled hsettled hname)
  · intro hunsettled
    obtain ⟨name, hname, hmissing⟩ := Lexicon.exists_not_mentions hunsettled
    exact ⟨name, hname, Lexicon.inferType_withTypeKeyword hmissing,
      Lexicon.optionsFor?_withOptionKeyword hmissing⟩

/-- A keyword with a sigma inside, and one that ends in a sigma. -/
theorem keyword_found_where_settled_inside :
    (Lexicon.empty.withTypeKeyword "ΜΕΣΟ" .number).inferType "ΜΕΣΟΣ" = .number ∧
      (Lexicon.empty.withTypeKeyword "ΤΟΠΟΣ" .textarea).inferType "ΤΟΠΟΣ" = .textarea ∧
      ∃ name : String, "ΤΟΠΟΣ".toList <:+: name.toList ∧
        ∀ type, (Lexicon.empty.withTypeKeyword "ΤΟΠΟΣ" type).inferType name = .text := by
  obtain ⟨hsettled, hunsettled⟩ := sigmasSettled_word
  obtain ⟨-, hcounts, -⟩ := keyword_found_where_settled "ΜΕΣΟ"
  obtain ⟨hsame, -, hmissed⟩ := keyword_found_where_settled "ΤΟΠΟΣ"
  refine ⟨?_, ?_, ?_⟩
  · have hname := hcounts hsettled "ΜΕΣΟΣ" ⟨[], ['Σ'], by decide +kernel⟩
    obtain ⟨k, hk, -, htype⟩ := hname.type (Lexicon.empty.withTypeKeyword "ΜΕΣΟ" .number) [] []
      .number (by decide +kernel)
    rw [List.nil_append, List.mem_singleton] at hk
    rw [htype, hk]
  · have hname := hsame "ΤΟΠΟΣ" [] [] (List.append_nil _).symm (Unicode.lowercase_eq _).symm
    obtain ⟨k, hk, -, htype⟩ := hname.type (Lexicon.empty.withTypeKeyword "ΤΟΠΟΣ" .textarea) [] []
      .textarea (by decide +kernel)
    rw [List.nil_append, List.mem_singleton] at hk
    rw [htype, hk]
  · obtain ⟨name, hname, htype, -⟩ := hmissed hunsettled
    exact ⟨name, hname, htype⟩

/-- The sigma at the end of the keyword is final in lowercase, and that of the name is not. -/
theorem keyword_missed_in_word :
    ¬ ∀ (l : Lexicon) (before after : List TypeKeyword) (e : TypeKeyword) (name : String),
        l.typeKeywords = before ++ e :: after → e.keyword.toList <:+: name.toList →
          ∃ k ∈ before ++ [e], l.inferType name = k.type := by
  intro hfound
  obtain ⟨k, hk, htype⟩ := hfound (Lexicon.empty.withTypeKeyword "ΤΟΠΟΣ" .textarea) [] []
    ⟨"ΤΟΠΟΣ", .textarea⟩ "ΤΟΠΟΣΗΜΟ" (by decide +kernel) ⟨[], "ΗΜΟ".toList, by decide +kernel⟩
  rw [List.nil_append, List.mem_singleton] at hk
  rw [Lexicon.inferType_withTypeKeyword not_mentions_in_word, hk] at htype
  cases htype

end FormTemplate
