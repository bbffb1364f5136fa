import Mathlib.Tactic.Ring
import FormTemplate.Text.Blank
import FormTemplate.Text.Integer

/-!
# Digits — rows of decimal digits

* `digits_of_lt`, `digits_of_le` — the digits of a number from those of its tenth;
* `decimalValue_digits`, `readNat?_digits` — reading the digits of a number gives it back;
* `decimalValue_append`, `decimalValue_zeros` — what further digits do to a value;
* `lt_pow_length_digits`, `pow_length_digits_le` — the number of digits tells the size of a number.
-/

namespace FormTemplate
namespace Text

/-! ## Single digits -/

/-- The character of a digit. -/
def digitChar (n : Nat) : Char :=
  Char.ofNat ('0'.toNat + n)

theorem digitValue_digitChar {n : Nat} (hn : n < 10) : digitValue (digitChar n) = n := by
  revert n
  decide

theorem isDigit_digitChar {n : Nat} (hn : n < 10) : isDigit (digitChar n) = true := by
  revert n
  decide

theorem isBlank_of_isDigit {c : Char} (hc : isDigit c = true) : isBlank c = false := by
  have hrange : '0' ≤ c ∧ c ≤ '9' := by
    simpa [isDigit] using hc
  have hlow : 48 ≤ c.toNat := hrange.1
  have hhigh : c.toNat ≤ 57 := hrange.2
  simp only [isBlank, Bool.or_eq_false_iff, Bool.and_eq_false_iff, decide_eq_false_iff_not,
    beq_eq_false_iff_ne]
  omega

/-! ## The digits of a number -/

/-- Any fuel above the number is enough. -/
theorem digits_go_eq {n fuel : Nat} (hfuel : n < fuel) (acc : List Char) :
    digits.go n fuel acc = digits n ++ acc := by
  induction n using Nat.strong_induction_on generalizing fuel acc with
  | _ n ih =>
      obtain ⟨fuel, rfl⟩ := Nat.exists_eq_succ_of_ne_zero (show fuel ≠ 0 by omega)
      rw [digits, digits.go, digits.go]
      by_cases hn : n < 10
      · simp [hn]
      · simp only [hn, if_false]
        rw [ih (n / 10) (by omega) (by omega), ih (n / 10) (by omega) (by omega)]
        simp

theorem digits_of_lt {n : Nat} (hn : n < 10) : digits n = [digitChar n] := by
  rw [digits, digits.go, if_pos hn, Nat.mod_eq_of_lt hn, digitChar]

theorem digits_of_le {n : Nat} (hn : 10 ≤ n) :
    digits n = digits (n / 10) ++ [digitChar (n % 10)] := by
  rw [digits, digits.go, if_neg (by omega), digits_go_eq (by omega), digitChar]

/-- Digits are gone through from the last one, as they are made. -/
theorem digits_induction {P : Nat → Prop} (small : ∀ n, n < 10 → P n)
    (large : ∀ n, 10 ≤ n → P (n / 10) → P n) (n : Nat) : P n := by
  induction n using Nat.strong_induction_on with
  | _ n ih =>
      rcases Nat.lt_or_ge n 10 with hn | hn
      · exact small n hn
      · exact large n hn (ih (n / 10) (by omega))

theorem digits_ne_nil (n : Nat) : digits n ≠ [] := by
  rcases Nat.lt_or_ge n 10 with hn | hn
  · simp [digits_of_lt hn]
  · simp [digits_of_le hn]

theorem isDigit_of_mem_digits {n : Nat} {c : Char} (hc : c ∈ digits n) : isDigit c = true := by
  induction n using digits_induction with
  | small n hn =>
      rw [digits_of_lt hn, List.mem_singleton] at hc
      exact hc ▸ isDigit_digitChar hn
  | large n hn ih =>
      rw [digits_of_le hn, List.mem_append, List.mem_singleton] at hc
      rcases hc with hc | rfl
      · exact ih hc
      · exact isDigit_digitChar (Nat.mod_lt n (by decide))

/-! ## Values of rows of digits -/

theorem decimalValue_append (acc : Nat) (ds es : List Char) :
    decimalValue acc (ds ++ es) = decimalValue (decimalValue acc ds) es :=
  List.foldl_append

theorem decimalValue_singleton (acc : Nat) (c : Char) :
    decimalValue acc [c] = 10 * acc + digitValue c :=
  rfl

theorem decimalValue_zeros (acc k : Nat) :
    decimalValue acc (List.replicate k '0') = acc * 10 ^ k := by
  induction k with
  | zero => simp [decimalValue]
  | succ k ih =>
      have hzero : digitValue '0' = 0 := rfl
      rw [List.replicate_succ', decimalValue_append, ih, decimalValue_singleton, hzero, pow_succ]
      ring

theorem decimalValue_digits (n : Nat) : decimalValue 0 (digits n) = n := by
  induction n using digits_induction with
  | small n hn =>
      rw [digits_of_lt hn, decimalValue_singleton, digitValue_digitChar hn]
      omega
  | large n hn ih =>
      rw [digits_of_le hn, decimalValue_append, ih, decimalValue_singleton,
        digitValue_digitChar (Nat.mod_lt n (by decide))]
      omega

theorem readNat?_digits (n : Nat) : readNat? (digits n) = some n := by
  have hall : (digits n).all isDigit = true := List.all_eq_true.2 fun c => isDigit_of_mem_digits
  simp [readNat?, digits_ne_nil, hall, decimalValue_digits]

/-! ## Sizes -/

theorem length_digits_of_le {n : Nat} (hn : 10 ≤ n) :
    (digits n).length = (digits (n / 10)).length + 1 := by
  rw [digits_of_le hn, List.length_append, List.length_singleton]

theorem lt_pow_length_digits (n : Nat) : n < 10 ^ (digits n).length := by
  induction n using digits_induction with
  | small n hn => simpa [digits_of_lt hn] using hn
  | large n hn ih =>
      rw [length_digits_of_le hn, pow_succ]
      omega

theorem pow_length_digits_le {n : Nat} (hn : 0 < n) : 10 ^ (digits n).length ≤ 10 * n := by
  induction n using digits_induction with
  | small n hlt =>
      rw [digits_of_lt hlt, List.length_singleton]
      omega
  | large n hle ih =>
      have htenth := ih (by omega)
      rw [length_digits_of_le hle, pow_succ]
      omega

end Text
end FormTemplate
