import Mathlib.Data.List.SplitBy
import FormTemplate.Lexicon
import FormTemplate.Proofs.Text.Cutting
import FormTemplate.Proofs.Unicode.Uppercase

/-!
# Labels — the label made of a name

A name that has no label in the table is cut into words, and its label has these words with blanks
between them.  The words are cut in one pass that keeps track of the character before, and empty pieces
are dropped afterwards.  What comes out is the same as if the name were cut twice: at its separators, and
then each piece before the capitals that follow a small letter or a digit.

* `continuesWord` — two characters between which no word starts;
* `words_separator`, `words_of_no_separator` — the two cuts, and `words_eq` — both of them;
* `flatten_words`, `isWord_of_mem_words` — the words have all of a name but its separators;
* `toUpper_not_separator` — no uppercase form has a separator;
* `SingleSpaced`, `singleSpaced_join` — words with single blanks between them;
* `humanize_eq` — a label is made of the words of the name, the first one in uppercase at its start;
* `humanize_keeps_name` — so it has the characters of the name in their order, and blanks between the
  words and nowhere else.
-/

namespace FormTemplate
namespace Lexicon

variable {c d : Char} {name : List Char}

/-! ## Where a word starts -/

/-- `c` behind `a` does not start a word: it is no capital, or `a` is no small letter and no digit. -/
def continuesWord (a c : Char) : Bool :=
  !(Unicode.isUppercase c && (Unicode.isLowercase a || Text.isDigit a))

theorem isWordStart_some (a c : Char) : isWordStart (some a) c = !continuesWord a c := by
  simp [isWordStart, continuesWord]

@[simp]
theorem isWordStart_none (c : Char) : isWordStart none c = false := by
  simp [isWordStart]

/-! ## Cutting at separators -/

theorem namePieces_ne_nil (prev : Option Char) (t : List Char) : namePieces prev t ≠ [] := by
  cases t with
  | nil => simp [namePieces]
  | cons c t =>
      rw [namePieces]
      split
      · simp
      · split
        · simp
        · split <;> simp

/-- The pieces up to a separator and those behind it. -/
theorem namePieces_separator (hc : isWordSeparator c = true) (prev : Option Char) (s t : List Char) :
    namePieces prev (s ++ c :: t) = namePieces prev s ++ namePieces (some c) t := by
  induction s generalizing prev with
  | nil => simp [namePieces, hc]
  | cons e s ih =>
      rw [List.cons_append, namePieces, namePieces, ih]
      cases hs : namePieces (some e) s with
      | nil => exact absurd hs (namePieces_ne_nil _ s)
      | cons w ws =>
          by_cases he : isWordSeparator e <;> by_cases hstart : isWordStart prev e <;>
            simp [he, hstart]

/-- What comes before a name makes a difference to the empty pieces only. -/
theorem filter_namePieces (prev : Option Char) (t : List Char) :
    (namePieces prev t).filter (fun w => !w.isEmpty) = words t := by
  cases t with
  | nil => rfl
  | cons c t =>
      -- only the first character is compared with what comes before
      rw [words, namePieces, namePieces, isWordStart_none]
      cases namePieces (some c) t with
      | nil => rfl
      | cons w ws =>
          by_cases hc : isWordSeparator c <;> by_cases hstart : isWordStart prev c <;>
            simp [hc, hstart]

/-- What is before a separator and what is behind it have their words apart from each other. -/
theorem words_separator (hc : isWordSeparator c = true) (s t : List Char) :
    words (s ++ c :: t) = words s ++ words t := by
  rw [words, namePieces_separator hc, List.filter_append, filter_namePieces, filter_namePieces]

/-! ## Cutting before capitals -/

section

variable {α : Type} {r : α → α → Bool} {a b : α} {l w : List α} {ws : List (List α)}

/-- An element that is related to the next one is in a group with it. -/
theorem splitBy_cons_of_rel (hab : r a b = true) (h : (b :: l).splitBy r = w :: ws) :
    (a :: b :: l).splitBy r = (a :: w) :: ws := by
  obtain ⟨hflat, hnil, hchains, hapart⟩ := List.splitBy_eq_iff.1 h
  cases w with
  | nil => exact absurd List.mem_cons_self hnil
  | cons e w =>
      obtain ⟨rfl, hl⟩ := List.cons.inj hflat
      obtain ⟨hchain, hrest⟩ := List.forall_mem_cons.1 hchains
      refine List.splitBy_eq_iff.2 ⟨?_, ?_, ?_, ?_⟩
      · rw [hflat, List.flatten_cons, List.flatten_cons]
        rfl
      · simpa using hnil
      · exact List.forall_mem_cons.2 ⟨List.isChain_cons_cons.2 ⟨hab, hchain⟩, hrest⟩
      · -- the last element of the first group is still the same
        cases ws with
        | nil => exact List.isChain_singleton _
        | cons u us =>
            obtain ⟨⟨hne, hu, hlast⟩, hus⟩ := List.isChain_cons_cons.1 hapart
            refine List.isChain_cons_cons.2 ⟨⟨List.cons_ne_nil _ _, hu, ?_⟩, hus⟩
            rwa [List.getLast_cons hne]

end

/-- A name without separators has no empty pieces. -/
theorem namePieces_of_no_separator {a : Char} {t : List Char}
    (h : ∀ c ∈ a :: t, isWordSeparator c = false) :
    namePieces none (a :: t) = (a :: t).splitBy continuesWord := by
  induction t generalizing a with
  | nil =>
      simp [namePieces, h a List.mem_cons_self, isWordStart, List.splitBy, List.splitBy.loop]
  | cons b t ih =>
      obtain ⟨ha, ht⟩ := List.forall_mem_cons.1 h
      have hb := ht b List.mem_cons_self
      have hrest := ih ht
      -- the pieces from `b` on are those that `b` would begin alone, unless a word starts with it
      rw [namePieces, ha, namePieces, hb]
      rw [namePieces, hb] at hrest
      cases hpieces : namePieces (some b) t with
      | nil => exact absurd hpieces (namePieces_ne_nil _ t)
      | cons w ws =>
          rw [hpieces] at hrest
          simp only [isWordStart_none, isWordStart_some, Bool.false_eq_true, if_false] at hrest ⊢
          by_cases hsame : continuesWord a b
          · rw [hsame]
            exact (splitBy_cons_of_rel hsame hrest.symm).symm
          · have hcut : (a :: b :: t).splitBy continuesWord =
                [a] :: (b :: t).splitBy continuesWord :=
              List.splitBy_append_cons (l := [a]) t (by simpa using hsame)
            rw [hcut, ← hrest]
            simp [hsame]

/-- Without separators, a name is cut between any two characters of which the second starts a word. -/
theorem words_of_no_separator (h : ∀ c ∈ name, isWordSeparator c = false) :
    words name = name.splitBy continuesWord := by
  cases name with
  | nil => rfl
  | cons a t =>
      rw [words, namePieces_of_no_separator h, List.filter_eq_self]
      intro w hw
      simpa using List.ne_nil_of_mem_splitBy hw

/-- The words of a name: it is cut at its separators, which are dropped, and each piece that is not
empty is cut before the capitals that follow a small letter or a digit. -/
theorem words_eq (name : List Char) :
    words name = (name.splitOnP isWordSeparator).flatMap (List.splitBy continuesWord) := by
  by_cases hseparator : ∃ c ∈ name, isWordSeparator c = true
  · -- any separator will do, not only the first one: both sides are shorter
    obtain ⟨c, hmem, hc⟩ := hseparator
    obtain ⟨s, t, hname⟩ := List.append_of_mem hmem
    rw [hname, words_separator hc, List.splitOnP_append_cons s t hc, List.flatMap_append,
      words_eq s, words_eq t]
  · have hnone : ∀ c ∈ name, isWordSeparator c = false := by
      simpa using hseparator
    rw [words_of_no_separator hnone, List.splitOnP_eq_singleton hnone, List.flatMap_singleton]
termination_by name.length
decreasing_by
  all_goals
    subst hname
    simp only [List.length_append, List.length_cons]
    omega

/-! ## What the words have of a name -/

theorem flatten_namePieces (prev : Option Char) (t : List Char) :
    (namePieces prev t).flatten = t.filter fun c => !isWordSeparator c := by
  induction t generalizing prev with
  | nil => rfl
  | cons c t ih =>
      have hrest := ih (some c)
      rw [namePieces, List.filter_cons, ← hrest]
      cases hpieces : namePieces (some c) t with
      | nil => exact absurd hpieces (namePieces_ne_nil _ t)
      | cons w ws =>
          by_cases hc : isWordSeparator c <;> by_cases hstart : isWordStart prev c <;>
            simp [hc, hstart]

theorem flatten_words (name : List Char) :
    (words name).flatten = name.filter fun c => !isWordSeparator c := by
  rw [words, List.flatten_filter_not_isEmpty, flatten_namePieces]

/-- A word has characters, and none of them is a separator. -/
structure IsWord (w : List Char) : Prop where
  ne_nil : w ≠ []
  not_separator : ∀ c ∈ w, isWordSeparator c = false

theorem isWord_of_mem_words {w : List Char} (h : w ∈ words name) : IsWord w := by
  constructor
  · have hkept := (List.mem_filter.1 h).2
    simpa using hkept
  · intro c hc
    have hflat : c ∈ (words name).flatten := List.mem_flatten.2 ⟨w, h, hc⟩
    rw [flatten_words] at hflat
    simpa using (List.mem_filter.1 hflat).2

theorem words_eq_nil_iff : words name = [] ↔ ∀ c ∈ name, isWordSeparator c = true := by
  -- words have characters, so that there are no words if there are no characters in them
  have hempty : (words name).flatten = [] ↔ words name = [] := by
    rw [List.flatten_eq_nil_iff]
    constructor
    · intro hall
      exact List.eq_nil_iff_forall_not_mem.2 fun w hw => (isWord_of_mem_words hw).ne_nil (hall w hw)
    · intro hnil
      simp [hnil]
  rw [← hempty, flatten_words, List.filter_eq_nil_iff]
  simp

/-! ## Capitals and separators -/

/-- The code points of the separators. -/
def separatorRanges : List Unicode.CharRange :=
  [⟨0x09, 0x0D⟩, ⟨0x20, 0x20⟩, ⟨0x2D, 0x2D⟩, ⟨0x5F, 0x5F⟩, ⟨0x85, 0x85⟩, ⟨0xA0, 0xA0⟩,
    ⟨0x1680, 0x1680⟩, ⟨0x2000, 0x200A⟩, ⟨0x2028, 0x2029⟩, ⟨0x202F, 0x202F⟩, ⟨0x205F, 0x205F⟩,
    ⟨0x3000, 0x3000⟩]

theorem covers_of_separator (hc : isWordSeparator c = true) :
    Unicode.Covers separatorRanges c.toNat := by
  simp only [isWordSeparator, Text.isBlank, Bool.or_eq_true, Bool.and_eq_true, beq_iff_eq,
    decide_eq_true_eq] at hc
  simp only [separatorRanges, Unicode.covers_cons, Unicode.covers_nil, or_false]
  rcases hc with (rfl | rfl) | hblank
  · decide
  · decide
  · omega

/-- No separator takes the place of another character. -/
theorem separatorRanges_apart :
    ∀ r ∈ separatorRanges, ∀ s ∈ Unicode.upperRanges, r.hi < s.lo ∨ s.hi < r.lo := by
  decide +kernel

theorem toUpper_not_separator (hc : isWordSeparator c = false) (hd : d ∈ Unicode.toUpper c) :
    isWordSeparator d = false := by
  rcases Unicode.mem_toUpper hd with rfl | ⟨s, hs, hslo, hshi⟩
  · exact hc
  · rw [Bool.eq_false_iff]
    intro hseparator
    obtain ⟨r, hr, hlo, hhi⟩ := covers_of_separator hseparator
    have hapart := separatorRanges_apart r hr s hs
    omega

/-- So a word stays one when its first character is replaced. -/
theorem IsWord.capitalize {w : List Char} (h : IsWord w) : IsWord (capitalize w) := by
  cases w with
  | nil => exact h
  | cons c w =>
      obtain ⟨hc, hw⟩ := List.forall_mem_cons.1 h.not_separator
      constructor
      · rw [Lexicon.capitalize, Ne, List.append_eq_nil_iff]
        exact fun hnil => Unicode.toUpper_ne_nil c hnil.1
      · intro d hd
        rcases List.mem_append.1 hd with hd | hd
        · exact toUpper_not_separator hc hd
        · exact hw d hd

/-! ## Words with blanks between them -/

theorem blank_separator : isWordSeparator ' ' = true := by
  decide

/-- Every separator in the text is a blank by itself, with something on either side. -/
structure SingleSpaced (t : List Char) : Prop where
  blank : ∀ c ∈ t, isWordSeparator c = true → c = ' '
  not_first : ¬ [' '] <+: t
  not_last : ¬ [' '] <:+ t
  not_doubled : ¬ [' ', ' '] <:+: t

variable {ws : List (List Char)}

theorem blank_notMem {w : List Char} (h : IsWord w) : ' ' ∉ w := by
  intro hblank
  have hkept := h.not_separator ' ' hblank
  rw [blank_separator] at hkept
  cases hkept

/-- Between any two blanks of joined words there is a word, and so there is at both ends. -/
theorem join_ne_of_blank (h : ∀ w ∈ ws, IsWord w) {s t : List Char}
    (hnil : [] ∈ Text.splitOnChar ' ' s ++ Text.splitOnChar ' ' t) :
    Text.join [' '] ws ≠ s ++ ' ' :: t := by
  intro hjoin
  cases ws with
  | nil => simp [Text.join] at hjoin
  | cons w ws =>
      have hsplit := Text.splitOnChar_join (List.cons_ne_nil w ws) fun v hv => blank_notMem (h v hv)
      rw [hjoin, Text.splitOnChar_append] at hsplit
      rw [hsplit] at hnil
      exact (h [] hnil).ne_nil rfl

theorem singleSpaced_join (h : ∀ w ∈ ws, IsWord w) : SingleSpaced (Text.join [' '] ws) := by
  refine ⟨?_, ?_, ?_, ?_⟩
  · intro c hc hseparator
    obtain hblank | ⟨w, hw, hcw⟩ := Text.mem_join hc
    · exact List.mem_singleton.1 hblank
    · rw [(h w hw).not_separator c hcw] at hseparator
      cases hseparator
  · -- a blank at an end, or behind another one, would have nothing on one side
    rintro ⟨t, ht⟩
    refine join_ne_of_blank (s := []) (t := t) h ?_ ht.symm
    exact List.mem_append_left _ (by simp [Text.splitOnChar])
  · rintro ⟨s, hs⟩
    refine join_ne_of_blank (s := s) (t := []) h ?_ hs.symm
    exact List.mem_append_right _ (by simp [Text.splitOnChar])
  · rintro ⟨s, t, hst⟩
    refine join_ne_of_blank (s := s) (t := ' ' :: t) h ?_ (by simpa using hst.symm)
    refine List.mem_append_right _ ?_
    have hsecond := Text.splitOnChar_append ' ' [] t
    rw [List.nil_append] at hsecond
    rw [hsecond]
    exact List.mem_append_left _ (by simp [Text.splitOnChar])

theorem filter_join (h : ∀ w ∈ ws, IsWord w) :
    (Text.join [' '] ws).filter (fun c => c != ' ') = ws.flatten := by
  induction ws with
  | nil => rfl
  | cons w ws ih =>
      obtain ⟨hw, hws⟩ := List.forall_mem_cons.1 h
      have hkept : w.filter (fun c => c != ' ') = w := by
        rw [List.filter_eq_self]
        intro c hc
        rw [bne_iff_ne]
        rintro rfl
        exact blank_notMem hw hc
      cases ws with
      | nil => rw [Text.join, hkept, List.flatten_singleton]
      | cons v ws =>
          rw [Text.join, List.filter_append, List.filter_append, hkept, ih hws]
          simp

theorem join_eq_nil_iff (h : ∀ w ∈ ws, IsWord w) : Text.join [' '] ws = [] ↔ ws = [] := by
  constructor
  · intro hjoin
    cases ws with
    | nil => rfl
    | cons w ws =>
        have hflat := filter_join h
        rw [hjoin] at hflat
        exact absurd (List.append_eq_nil_iff.1 hflat.symm).1 (h w List.mem_cons_self).ne_nil
  · rintro rfl
    rfl

/-! ## Labels -/

/-- The words of a label. -/
def labelWords (name : List Char) : List (List Char) :=
  (words name).modifyHead capitalize

theorem isWord_of_mem_labelWords {w : List Char} (h : w ∈ labelWords name) : IsWord w := by
  rw [labelWords] at h
  cases hwords : words name with
  | nil =>
      rw [hwords] at h
      cases h
  | cons v vs =>
      have hall : ∀ u ∈ v :: vs, IsWord u := fun u hu => isWord_of_mem_words (hwords ▸ hu)
      rw [hwords, List.modifyHead_cons] at h
      rcases List.mem_cons.1 h with rfl | hw
      · exact (hall v List.mem_cons_self).capitalize
      · exact hall w (List.mem_cons_of_mem v hw)

theorem capitalize_append {w : List Char} (hw : w ≠ []) (t : List Char) :
    capitalize (w ++ t) = capitalize w ++ t := by
  cases w with
  | nil => exact absurd rfl hw
  | cons c w => rw [List.cons_append, capitalize, capitalize, List.append_assoc]

theorem humanize_eq (name : List Char) : humanize name = Text.join [' '] (labelWords name) := by
  rw [humanize, labelWords]
  cases hwords : words name with
  | nil => rfl
  | cons w ws =>
      have hw : w ≠ [] := (isWord_of_mem_words (hwords ▸ List.mem_cons_self)).ne_nil
      cases ws with
      | nil => rfl
      | cons v ws =>
          rw [List.modifyHead_cons, Text.join, Text.join, List.append_assoc, List.append_assoc,
            capitalize_append hw]

theorem flatten_labelWords (name : List Char) :
    (labelWords name).flatten = capitalize (name.filter fun c => !isWordSeparator c) := by
  rw [← flatten_words, labelWords]
  cases hwords : words name with
  | nil => rfl
  | cons w ws =>
      have hw : w ≠ [] := (isWord_of_mem_words (hwords ▸ List.mem_cons_self)).ne_nil
      rw [List.modifyHead_cons, List.flatten_cons, List.flatten_cons, capitalize_append hw]

/-- What a label made of a name is, for every name.  It has the words of the name, cut as above, with a
blank between them and its first character in uppercase.  The only separators in it are single blanks
inside.  It is empty if the name has nothing but separators, and not otherwise.  Without its blanks it
has the characters of the name that are no separators, all of them and in their order, the first one in
uppercase. -/
theorem humanize_keeps_name (name : List Char) :
    humanize name = capitalize (Text.join [' ']
        ((name.splitOnP isWordSeparator).flatMap (List.splitBy continuesWord))) ∧
      SingleSpaced (humanize name) ∧ '_' ∉ humanize name ∧ '-' ∉ humanize name ∧
      (humanize name = [] ↔ ∀ c ∈ name, isWordSeparator c = true) ∧
      (humanize name).filter (fun c => c != ' ') =
        capitalize (name.filter fun c => !isWordSeparator c) := by
  have hwords : ∀ w ∈ labelWords name, IsWord w := fun w hw => isWord_of_mem_labelWords hw
  have hspaced : SingleSpaced (humanize name) := by
    rw [humanize_eq]
    exact singleSpaced_join hwords
  refine ⟨?_, hspaced, ?_, ?_, ?_, ?_⟩
  · rw [humanize, words_eq]
  · intro hmem
    exact absurd (hspaced.blank '_' hmem (by decide)) (by decide)
  · intro hmem
    exact absurd (hspaced.blank '-' hmem (by decide)) (by decide)
  · rw [humanize_eq, join_eq_nil_iff hwords, labelWords, List.modifyHead_eq_nil_iff,
      words_eq_nil_iff]
  · rw [humanize_eq, filter_join hwords, flatten_labelWords]

end Lexicon
end FormTemplate
