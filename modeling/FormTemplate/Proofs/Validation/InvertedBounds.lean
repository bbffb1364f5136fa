import FormTemplate.Lexicon.Builtin
import FormTemplate.Proofs.Catalog.Rules
import FormTemplate.Proofs.Decimal.Integers
import FormTemplate.Proofs.Validation.Diagnostics

/-!
# Inverted bounds — which numbers a range without integers lets through

Bounds are compared as integers when a template is looked through, and as doubles when a value is
checked.  A lower bound above the upper one leaves no integer between them, but both may be rounded
to one double, and this one is within both.

* `Catalog.Reads.boundsFit` — the bounds of a template's variables are integers of 64 bits;
* `Binary64.between_inverted_iff` — the doubles that are within inverted bounds;
* `accepted_of_invertedBounds_iff` — the numbers that are accepted although the bounds are reported.
-/

namespace FormTemplate

open Binary64

variable {l : Lexicon}

/-! ## The bounds of declared variables -/

theorem Variable.boundsFit_declare (l : Lexicon) (e : Expression) : (declare l e).BoundsFit := by
  obtain ⟨v, rules, hnone, hrules, hvalidation⟩ := exists_rules_declare l e
  have hstart : v.BoundsFit := by
    intro c hc
    rw [hnone] at hc
    cases hc
  have hfold : (rules.foldl applyRule v).BoundsFit := by
    refine hstart.foldl ?_
    rintro n (hn | hn)
    · obtain ⟨t, ht⟩ := hrules _ hn
      exact Rule.fitsInt64_of_mem (.inl ht)
    · obtain ⟨t, ht⟩ := hrules _ hn
      exact Rule.fitsInt64_of_mem (.inr ht)
  intro c hc
  exact hfold c (hvalidation ▸ hc)

theorem Catalog.Reads.boundsFit {c : Catalog} {es : List Expression} (h : Reads l es c)
    {x : Variable} (hx : x ∈ c.entries) : x.BoundsFit :=
  h.forall_entries (Variable.boundsFit_declare l) x hx

/-! ## Doubles within inverted bounds -/

namespace Binary64

variable {min max : ℤ} {y : Binary64}

/-- Within inverted bounds is what both bounds are rounded to. -/
theorem between_inverted_iff (hmin : InRange min) (hmax : InRange max) (hlt : max < min) :
    y.lt (ofInt min) = false ∧ (ofInt max).lt y = false ↔
      y.scaled = (ofInt min).scaled ∧ y.scaled = (ofInt max).scaled := by
  have hle := scaled_ofInt_le hmax hmin hlt.le
  simp only [lt, decide_eq_false_iff_not, not_lt]
  constructor
  · rintro ⟨hlow, hhigh⟩
    exact ⟨le_antisymm (hhigh.trans hle) hlow, le_antisymm hhigh (hle.trans hlow)⟩
  · rintro ⟨hlow, hhigh⟩
    exact ⟨hlow.ge, hhigh.le⟩

end Binary64

/-! ## Reported bounds -/

/-- When the bounds of a variable are reported as inverted, a number, or the text of one, is accepted
exactly if it is the double that both bounds are rounded to, and nothing but the bounds is against it.
Hence all numbers and all texts of numbers are rejected, unless the bounds are rounded to one double,
for which they must both be beyond `2 ^ 53`. -/
theorem accepted_of_invertedBounds_iff {d : Delimiters} {content : String} {x : Variable}
    {min max : Int} (hx : x ∈ (Catalog.parse d l content).entries)
    (hreported : .invertedBounds x.name min max ∈ (Catalog.parse d l content).diagnostics) :
    (∀ v y, v.number? = some y →
      (x.check v = none ↔
        y.scaled = (ofInt min).scaled ∧ y.scaled = (ofInt max).scaled ∧
          x.withoutBounds.check v = none)) ∧
      (¬ SameDouble min max →
        (∀ n, x.check (.number n) ≠ none) ∧
          ∀ s y, Text.readReal? (Text.trim s.toList) = some y → x.check (.string s) ≠ none) ∧
      (SameDouble min max → 2 ^ 53 ≤ min.natAbs ∧ 2 ^ 53 ≤ max.natAbs) := by
  have hreads := Catalog.reads_parse d l content
  obtain ⟨-, c, hc, hmin, hmax, hlt⟩ :=
    Variable.invertedBounds_mem_iff.1 ((hreads.mem_diagnostics_iff hx rfl).1 hreported)
  have hfit := hreads.boundsFit hx c hc
  have hminRange := (Text.fitsWord_of_fitsInt64 (hfit min (.inl hmin))).inRange
  have hmaxRange := (Text.fitsWord_of_fitsInt64 (hfit max (.inr hmax))).inRange
  have haccepted : ∀ v y, v.number? = some y →
      (x.check v = none ↔
        y.scaled = (ofInt min).scaled ∧ y.scaled = (ofInt max).scaled ∧
          x.withoutBounds.check v = none) := by
    intro v y hy
    rw [x.check_eq_none_iff_bounds hc hy, hmin, hmax, ← and_assoc, ← and_assoc,
      ← between_inverted_iff hminRange hmaxRange hlt]
    simp
  refine ⟨haccepted, ?_, ?_⟩
  · intro hdifferent
    have hrejected : ∀ v y, v.number? = some y → x.check v ≠ none := by
      intro v y hy hnone
      obtain ⟨hlow, hhigh, -⟩ := (haccepted v y hy).1 hnone
      exact hdifferent (hlow.symm.trans hhigh)
    exact ⟨fun n => hrejected _ _ rfl, fun s y hs => hrejected (.string s) y hs⟩
  · intro hsame
    exact ⟨le_natAbs_of_sameDouble hminRange hmaxRange hlt.ne' hsame,
      le_natAbs_of_sameDouble hmaxRange hminRange hlt.ne hsame.symm⟩

/-- Bounds of a few digits are never rounded to one double. -/
theorem accepted_of_invertedBounds_small :
    let c := Catalog.parse .standard .empty "\x7b\x7bscore:number:min=10,max=5\x7d\x7d"
    ∃ x ∈ c.entries, .invertedBounds x.name 10 5 ∈ c.diagnostics ∧
      (∀ n, x.check (.number n) ≠ none) ∧
        ∀ s y, Text.readReal? (Text.trim s.toList) = some y → x.check (.string s) ≠ none := by
  intro c
  have hdeclared : ∃ x ∈ c.entries, .invertedBounds x.name 10 5 ∈ c.diagnostics := by
    decide +kernel
  obtain ⟨x, hx, hreported⟩ := hdeclared
  exact ⟨x, hx, hreported, (accepted_of_invertedBounds_iff hx hreported).2.1 (by decide +kernel)⟩

/-- One above the other and both beyond `2 ^ 53`, the bounds are rounded to one double: a number is
within bounds that exclude each other. -/
theorem not_rejected_of_invertedBounds :
    ¬ ∀ (d : Delimiters) (l : Lexicon) (content : String),
      ∀ x ∈ (Catalog.parse d l content).entries, ∀ min max,
        .invertedBounds x.name min max ∈ (Catalog.parse d l content).diagnostics →
          (∀ n, x.check (.number n) ≠ none) ∧
            ∀ s y, Text.readReal? (Text.trim s.toList) = some y → x.check (.string s) ≠ none := by
  intro h
  let content := "\x7b\x7bn:number:min=9007199254740993,max=9007199254740992\x7d\x7d"
  have haccepted : ∃ x ∈ (Catalog.parse .standard .builtin content).entries,
      .invertedBounds x.name 9007199254740993 9007199254740992 ∈
          (Catalog.parse .standard .builtin content).diagnostics ∧
        x.check (.number (.integer 9007199254740992)) = none := by
    decide +kernel
  obtain ⟨x, hx, hreported, hnone⟩ := haccepted
  exact (h .standard .builtin content x hx _ _ hreported).1 (.integer 9007199254740992) hnone

end FormTemplate
