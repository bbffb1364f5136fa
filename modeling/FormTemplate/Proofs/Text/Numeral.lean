import FormTemplate.Proofs.Text.Digits
import FormTemplate.Proofs.Text.Trim

/-!
# Numeral — integers as they are written

`Text.readInt64?` reads an integer of 64 bits.  Which texts are integers is said here without a
reader and without a bound on their size, so that a text can fail to be read for two reasons: it is
no integer, or it is one that does not fit.

* `Text.Numeral` — a text that is an integer in decimal notation, and the integer;
* `Text.readInt64?_eq_some_iff` — what is read is what is written, if it fits;
* `Text.numeral_showInt`, `Text.readInt64?_showInt` — an integer is read back from its digits.
-/

namespace FormTemplate
namespace Text

/-- Digits, at least one of them, behind a sign or no sign. -/
inductive Numeral : List Char → Int → Prop where
  | digits {ds : List Char} (hne : ds ≠ []) (hds : ∀ c ∈ ds, isDigit c = true) :
      Numeral ds (decimalValue 0 ds)
  | plus {ds : List Char} (hne : ds ≠ []) (hds : ∀ c ∈ ds, isDigit c = true) :
      Numeral ('+' :: ds) (decimalValue 0 ds)
  | minus {ds : List Char} (hne : ds ≠ []) (hds : ∀ c ∈ ds, isDigit c = true) :
      Numeral ('-' :: ds) (-(decimalValue 0 ds : Int))

variable {t ds : List Char} {n : Int}

/-! ## Reading -/

theorem readNat?_eq_some_iff {m : Nat} :
    readNat? ds = some m ↔ ds ≠ [] ∧ (∀ c ∈ ds, isDigit c = true) ∧ decimalValue 0 ds = m := by
  have htest : (!ds.isEmpty && ds.all isDigit) = true ↔ ds ≠ [] ∧ ∀ c ∈ ds, isDigit c = true := by
    simp
  unfold readNat?
  split
  case isTrue h =>
      obtain ⟨hne, hds⟩ := htest.1 h
      constructor
      · intro hvalue
        exact ⟨hne, hds, Option.some.inj hvalue⟩
      · rintro ⟨-, -, rfl⟩
        rfl
  case isFalse h =>
      constructor
      · intro hnone
        cases hnone
      · rintro ⟨hne, hds, -⟩
        exact absurd (htest.2 ⟨hne, hds⟩) h

/-- The integer of a text, whatever its size. -/
def readNumeral? (t : List Char) : Option Int :=
  match t with
  | '-' :: ds => (readNat? ds).map fun m : Nat => -(m : Int)
  | '+' :: ds => (readNat? ds).map fun m : Nat => (m : Int)
  | ds => (readNat? ds).map fun m : Nat => (m : Int)

theorem readInt64?_eq_filter (t : List Char) :
    readInt64? t = (readNumeral? t).filter fitsInt64 := by
  unfold readInt64?
  split
  case h_1 ds =>
      rw [readNumeral?]
      cases readNat? ds <;> rfl
  case h_2 ds =>
      rw [readNumeral?]
      cases readNat? ds <;> rfl
  case h_3 hminus hplus =>
      rw [readNumeral?.eq_3 t hminus hplus]
      cases readNat? t <;> rfl

theorem Numeral.readNumeral?_eq (h : Numeral t n) : readNumeral? t = some n := by
  cases h with
  | plus hne hds =>
      simp only [readNumeral?, readNat?_eq_some_iff.2 ⟨hne, hds, rfl⟩, Option.map_some]
  | minus hne hds =>
      simp only [readNumeral?, readNat?_eq_some_iff.2 ⟨hne, hds, rfl⟩, Option.map_some]
  | digits hne hds =>
      -- a digit is no sign, so the text is not taken apart
      have hread := readNat?_eq_some_iff.2 ⟨hne, hds, rfl⟩
      unfold readNumeral?
      split
      · exact absurd (hds '-' List.mem_cons_self) (by decide)
      · exact absurd (hds '+' List.mem_cons_self) (by decide)
      · rw [hread]
        rfl

theorem numeral_of_readNumeral? (h : readNumeral? t = some n) : Numeral t n := by
  unfold readNumeral? at h
  split at h
  all_goals
    obtain ⟨m, hm, rfl⟩ := Option.map_eq_some_iff.1 h
    obtain ⟨hne, hds, rfl⟩ := readNat?_eq_some_iff.1 hm
  · exact .minus hne hds
  · exact .plus hne hds
  · exact .digits hne hds

theorem readInt64?_eq_some_iff : readInt64? t = some n ↔ Numeral t n ∧ fitsInt64 n = true := by
  rw [readInt64?_eq_filter, Option.filter_eq_some_iff]
  constructor
  · rintro ⟨hread, hfits⟩
    exact ⟨numeral_of_readNumeral? hread, hfits⟩
  · rintro ⟨hnumeral, hfits⟩
    exact ⟨hnumeral.readNumeral?_eq, hfits⟩

/-- A text that is not read is no integer, or one that does not fit. -/
theorem readInt64?_eq_none_iff :
    readInt64? t = none ↔ ∀ n, Numeral t n → fitsInt64 n = false := by
  rw [Option.eq_none_iff_forall_ne_some]
  simp only [ne_eq, readInt64?_eq_some_iff, not_and, Bool.not_eq_true]

/-! ## Printing -/

theorem numeral_showInt (n : Int) : Numeral (showInt n).toList n := by
  have hdigits : ∀ c ∈ digits n.natAbs, isDigit c = true := fun c => isDigit_of_mem_digits
  have hvalue := decimalValue_digits n.natAbs
  rcases lt_or_ge n 0 with hn | hn
  · have hminus := Numeral.minus (digits_ne_nil n.natAbs) hdigits
    have habs : -(n.natAbs : Int) = n := by omega
    rw [hvalue, habs] at hminus
    simpa [showInt, hn] using hminus
  · have hplain := Numeral.digits (digits_ne_nil n.natAbs) hdigits
    have habs : (n.natAbs : Int) = n := by omega
    rw [hvalue, habs] at hplain
    simpa [showInt, Int.not_lt.2 hn] using hplain

theorem readInt64?_showInt (hn : fitsInt64 n = true) :
    readInt64? (showInt n).toList = some n :=
  readInt64?_eq_some_iff.2 ⟨numeral_showInt n, hn⟩

/-! ## The characters of a numeral -/

namespace Numeral

theorem ne_nil (h : Numeral t n) : t ≠ [] := by
  cases h with
  | digits hne hds => exact hne
  | plus hne hds => simp
  | minus hne hds => simp

/-- A sign or a digit. -/
theorem of_mem (h : Numeral t n) {c : Char} (hc : c ∈ t) :
    c = '+' ∨ c = '-' ∨ isDigit c = true := by
  cases h with
  | digits hne hds => exact .inr (.inr (hds c hc))
  | plus hne hds =>
      rcases List.mem_cons.1 hc with hsign | hmem
      · exact .inl hsign
      · exact .inr (.inr (hds c hmem))
  | minus hne hds =>
      rcases List.mem_cons.1 hc with hsign | hmem
      · exact .inr (.inl hsign)
      · exact .inr (.inr (hds c hmem))

theorem trimmed (h : Numeral t n) : Trimmed t := by
  apply Trimmed.of_nonblank
  intro c hc
  rcases h.of_mem hc with rfl | rfl | hdigit
  · rfl
  · rfl
  · exact isBlank_of_isDigit hdigit

theorem comma_notMem (h : Numeral t n) : ',' ∉ t := by
  intro hmem
  rcases h.of_mem hmem with hplus | hminus | hdigit
  · revert hplus
    decide
  · revert hminus
    decide
  · revert hdigit
    decide

end Numeral

end Text
end FormTemplate
