import FormTemplate.Proofs.Unicode.CharSets
import FormTemplate.Unicode.Case

/-!
# Letters — what the tables say of some letters

Whether a sigma ends a word is decided by the characters around it: those that case ignores are passed
over, and the next one counts if it is cased.  The two sets come from long tables; this file reads off
them what is needed of ASCII letters and of the Greek capitals before the sigma.

* `letterRanges` — these letters;
* `avoidsLetters` — a range of a table that has none of them;
* `forward_cased`, `avoidsLetters_caseIgnorable` — what all rows of the tables have in common;
* `casedSet_of_letter`, `caseIgnorableSet_of_letter` — the letters are cased, and case does not ignore
  them.
-/

namespace FormTemplate
namespace Unicode

/-- The ASCII letters, and the Greek capitals before the sigma. -/
def letterRanges : List CharRange :=
  [⟨0x41, 0x5A⟩, ⟨0x61, 0x7A⟩, ⟨0x391, 0x3A1⟩]

def isForward (r : CharRange) : Bool :=
  r.lo ≤ r.hi

/-- The range has none of these letters. -/
def avoidsLetters (r : CharRange) : Bool :=
  isForward r && letterRanges.all fun s => r.hi < s.lo || s.hi < r.lo

theorem forward_iff {rows : List String} :
    Forward rows ↔ (readRanges rows).all isForward = true := by
  simp [Forward, isForward]

theorem forward_of_avoidsLetters {rows : List String}
    (h : (readRanges rows).all avoidsLetters = true) : Forward rows := by
  intro r hr
  have havoids := List.all_eq_true.1 h r hr
  simp only [avoidsLetters, isForward, Bool.and_eq_true, decide_eq_true_eq] at havoids
  exact havoids.1

theorem not_covers_of_avoidsLetters {rows : List String} {n : Nat}
    (h : (readRanges rows).all avoidsLetters = true) (hn : Covers letterRanges n) :
    ¬ Covers (readRanges rows) n := by
  rintro ⟨r, hr, hlo, hhi⟩
  obtain ⟨s, hs, hslo, hshi⟩ := hn
  have havoids := List.all_eq_true.1 h r hr
  simp only [avoidsLetters, Bool.and_eq_true, List.all_eq_true, Bool.or_eq_true,
    decide_eq_true_eq] at havoids
  have hapart := havoids.2 s hs
  omega

/-! ## Tables -/

theorem forward_cased : (∀ k ∈ Property.cased.categories, Forward (Category.table k)) ∧
    Forward Property.cased.added := by
  refine ⟨?_, ?_⟩
  · intro k hk
    rw [forward_iff]
    simp only [Property.cased, List.mem_cons, List.not_mem_nil, or_false] at hk
    rcases hk with rfl | rfl | rfl
    -- row by row, since a table is too long to be evaluated as a whole
    all_goals
      simp only [Category.table]
      repeat refine all_readRanges_cons rfl (by decide +kernel) ?_
      rfl
  · rw [forward_iff]
    simp only [Property.cased]
    repeat refine all_readRanges_cons rfl (by decide +kernel) ?_
    rfl

theorem avoidsLetters_caseIgnorable :
    (∀ k ∈ Property.caseIgnorable.categories,
        (readRanges (Category.table k)).all avoidsLetters = true) ∧
      (readRanges Property.caseIgnorable.added).all avoidsLetters = true := by
  refine ⟨?_, ?_⟩
  · intro k hk
    simp only [Property.caseIgnorable, List.mem_cons, List.not_mem_nil, or_false] at hk
    rcases hk with rfl | rfl | rfl | rfl | rfl
    all_goals
      simp only [Category.table]
      repeat refine all_readRanges_cons rfl (by decide +kernel) ?_
      rfl
  · simp only [Property.caseIgnorable]
    repeat refine all_readRanges_cons rfl (by decide +kernel) ?_
    rfl

theorem covers_letterCategories {n : Nat} (h : Covers letterRanges n) :
    ∃ k ∈ Property.cased.categories, Covers (readRanges (Category.table k)) n := by
  have hcapital : ⟨0x41, 0x5A⟩ ∈ readRanges (Category.table .uppercaseLetter) :=
    mem_readRanges_of_row List.mem_cons_self rfl (by decide +kernel)
  have hsmall : ⟨0x61, 0x7A⟩ ∈ readRanges (Category.table .lowercaseLetter) :=
    mem_readRanges_of_row List.mem_cons_self rfl (by decide +kernel)
  have hgreek : ⟨0x391, 0x3A1⟩ ∈ readRanges (Category.table .uppercaseLetter) :=
    mem_readRanges_of_row (List.mem_of_getElem? (i := 8) rfl) rfl (by decide +kernel)
  simp only [letterRanges, covers_cons, covers_nil, or_false] at h
  rcases h with h | h | h
  · exact ⟨.uppercaseLetter, by decide, _, hcapital, h⟩
  · exact ⟨.lowercaseLetter, by decide, _, hsmall, h⟩
  · exact ⟨.uppercaseLetter, by decide, _, hgreek, h⟩

theorem toNat_le_lastCodePoint (c : Char) : c.toNat ≤ lastCodePoint := by
  have hvalid := c.valid
  simp only [UInt32.isValidChar, Nat.isValidChar] at hvalid
  simp only [lastCodePoint, Char.toNat]
  omega

/-! ## Letters -/

theorem casedSet_of_letter {c : Char} (h : Covers letterRanges c.toNat) :
    casedSet.mem c = true := by
  have hforward : Forward Property.cased.removed := by
    simp [Forward, readRanges, Property.cased]
  rw [CharSet.mem_iff, casedSet, Property.covers_set (by decide) forward_cased.1 forward_cased.2
    hforward (toNat_le_lastCodePoint c)]
  exact ⟨.inl (covers_letterCategories h), by simp [readRanges, Property.cased]⟩

theorem caseIgnorableSet_of_letter {c : Char} (h : Covers letterRanges c.toNat) :
    caseIgnorableSet.mem c = false := by
  obtain ⟨hcategories, hadded⟩ := avoidsLetters_caseIgnorable
  have hforward : Forward Property.caseIgnorable.removed := by
    simp [Forward, readRanges, Property.caseIgnorable]
  rw [Bool.eq_false_iff, Ne, CharSet.mem_iff, caseIgnorableSet,
    Property.covers_set (by decide) (fun k hk => forward_of_avoidsLetters (hcategories k hk))
      (forward_of_avoidsLetters hadded) hforward (toNat_le_lastCodePoint c)]
  rintro ⟨⟨k, hk, hcovers⟩ | hcovers, -⟩
  · exact not_covers_of_avoidsLetters (hcategories k hk) h hcovers
  · exact not_covers_of_avoidsLetters hadded h hcovers

end Unicode
end FormTemplate
