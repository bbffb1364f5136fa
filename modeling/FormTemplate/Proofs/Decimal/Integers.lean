import FormTemplate.Proofs.Decimal.Rounding

/-!
# Integers — integers as doubles

An integer is rounded to a double before it is compared.

* `value` — the number that a double stands for, and `scaled_eq`, by which it compares;
* `value_ofInt_le` — rounding keeps the order of integers, though it may make two of them equal;
* `value_ofInt` — integers of up to 53 bits are not changed;
* `lt_ofInt_iff` — so the doubles of two integers compare as the integers do, unless they are one
  double, which needs both to be that large.
-/

namespace FormTemplate
namespace Binary64

/-! ## Values -/

/-- The number that a double stands for. -/
def value (x : Binary64) : ℚ :=
  if x.negative then -x.magnitude else x.magnitude

theorem magnitude_nonneg (x : Binary64) : 0 ≤ x.magnitude := by
  unfold magnitude
  positivity

theorem two_zpow_minExponent : (2 : ℚ) ^ minExponent = (2 ^ 1074)⁻¹ :=
  zpow_neg 2 1074

theorem scaled_eq {x : Binary64} (hx : x.WellFormed) : (x.scaled : ℚ) = x.value * 2 ^ 1074 := by
  obtain ⟨k, hk⟩ := Int.eq_ofNat_of_zero_le (show 0 ≤ x.exponent - minExponent by
    have := hx.min_le
    omega)
  have hmagnitude : ((x.mantissa * Nat.pow 2 (x.exponent - minExponent).toNat : ℕ) : ℚ) =
      x.magnitude * 2 ^ 1074 := by
    have hexponent : x.exponent = k + minExponent := by
      rw [← hk]
      omega
    rw [hk, magnitude, hexponent, zpow_add₀ two_ne_zero, zpow_natCast, mul_assoc, mul_assoc,
      two_zpow_minExponent, inv_mul_cancel₀ (by positivity), mul_one]
    simp
  unfold scaled value
  split
  · rw [Int.cast_neg, Int.cast_natCast, hmagnitude, neg_mul]
  · rw [Int.cast_natCast, hmagnitude]

theorem lt_iff {x y : Binary64} (hx : x.WellFormed) (hy : y.WellFormed) :
    x.lt y = true ↔ x.value < y.value := by
  rw [lt, decide_eq_true_eq, ← Int.cast_lt (R := ℚ), scaled_eq hx, scaled_eq hy]
  exact mul_lt_mul_iff_left₀ (by positivity)

/-! ## Integers -/

/-- An integer that is far from the ends of the range of doubles. -/
def InRange (n : ℤ) : Prop :=
  n.natAbs < 2 ^ 200

theorem exists_ofRatio? {n : ℤ} (hn : InRange n) :
    ofRatio? (n < 0) n.natAbs 1 = some (ofInt n) := by
  rcases Nat.eq_zero_or_pos n.natAbs with hzero | hpos
  · simp [ofInt, ofRatio?, hzero]
  · obtain ⟨e, m, he, hm, hx⟩ :=
      ofRatio?_eq (decide (n < 0)) hpos Nat.one_pos
    have hexponent : (pack (decide (n < 0)) m e).exponent ≤ maxExponent := by
      -- the exponent is the least one or bounded by the size of the integer
      have hle : e ≤ 900 ∨ e + 52 < 200 := by
        refine he.le.imp (fun h => by rw [h]; decide) fun h => ?_
        have hlt : ((n.natAbs : ℕ) : ℚ) / (1 : ℕ) < 2 ^ (200 : ℤ) := by
          rw [Nat.cast_one, div_one]
          exact_mod_cast hn
        exact two_zpow_lt_iff.1 (h.trans_lt hlt)
      unfold pack maxExponent
      split
      · simp
        omega
      · simp
        omega
    rw [if_pos hexponent] at hx
    rw [ofInt, hx, Option.getD_some]

theorem wellFormed_ofInt {n : ℤ} (hn : InRange n) : (ofInt n).WellFormed :=
  wellFormed_of_ofRatio? Nat.one_pos (exists_ofRatio? hn)

theorem rounds_ofInt {n : ℤ} (hn : InRange n) : Rounds n.natAbs (ofInt n) := by
  simpa using (rounds_of_ofRatio? Nat.one_pos (exists_ofRatio? hn)).1

theorem negative_ofInt {n : ℤ} (hn : InRange n) : (ofInt n).negative = decide (n < 0) :=
  (rounds_of_ofRatio? Nat.one_pos (exists_ofRatio? hn)).2

/-- Rounding keeps the order of integers. -/
theorem value_ofInt_le {m n : ℤ} (hm : InRange m) (hn : InRange n) (h : m ≤ n) :
    (ofInt m).value ≤ (ofInt n).value := by
  have hm0 := (ofInt m).magnitude_nonneg
  have hn0 := (ofInt n).magnitude_nonneg
  simp only [value, negative_ofInt hm, negative_ofInt hn, decide_eq_true_eq]
  split
  case isTrue hmneg =>
      split
      case isTrue hnneg =>
          have hle : (ofInt n).magnitude ≤ (ofInt m).magnitude :=
            (rounds_ofInt hn).magnitude_le (rounds_ofInt hm) (by exact_mod_cast (by omega))
          linarith
      case isFalse => linarith
  case isFalse hmpos =>
      have hle : (ofInt m).magnitude ≤ (ofInt n).magnitude :=
        (rounds_ofInt hm).magnitude_le (rounds_ofInt hn) (by exact_mod_cast (by omega))
      rwa [if_neg (by omega)]

theorem gridExponent_le_of_lt {v : ℚ} {e f : ℤ} (hv : GridExponent v e) (hf : minExponent ≤ f)
    (h : v < 2 ^ (f + 53)) : e ≤ f := by
  rcases hv.le with rfl | hle
  · exact hf
  · have hexp := two_zpow_lt_iff.1 (hle.trans_lt h)
    omega

/-- An integer of up to 53 bits is a double. -/
theorem value_ofInt {n : ℤ} (hn : n.natAbs ≤ 2 ^ 53) : (ofInt n).value = n := by
  have hrange : InRange n := hn.trans_lt (Nat.pow_lt_pow_right (by decide) (by decide))
  have hmagnitude : (ofInt n).magnitude = n.natAbs := by
    rcases hn.eq_or_lt with hn | hn
    · -- the least integer of 54 bits is even
      refine (rounds_ofInt hrange).magnitude_eq_of_multiple (k := 2 ^ 52) (e := 1) ?_ ?_
      · rw [hn]
        norm_num
      · intro f hf
        refine gridExponent_le_of_lt hf (by decide) ?_
        rw [hn]
        norm_num
    · refine (rounds_ofInt hrange).magnitude_eq_of_multiple (k := n.natAbs) (e := 0) (by simp) ?_
      intro f hf
      refine gridExponent_le_of_lt hf (by decide) ?_
      rw [zero_add]
      exact_mod_cast hn
  rw [value, negative_ofInt hrange, hmagnitude]
  simp only [decide_eq_true_eq]
  split
  · rw [Nat.cast_natAbs, abs_of_neg (by assumption)]
    simp
  · rw [Nat.cast_natAbs, abs_of_nonneg (by omega)]

/-! ## Comparing integers as doubles -/

/-- Two integers that are rounded to the same number. -/
def SameDouble (m n : ℤ) : Prop :=
  (ofInt m).scaled = (ofInt n).scaled

instance (m n : ℤ) : Decidable (SameDouble m n) :=
  inferInstanceAs (Decidable (_ = _))

theorem sameDouble_iff {m n : ℤ} (hm : InRange m) (hn : InRange n) :
    SameDouble m n ↔ (ofInt m).value = (ofInt n).value := by
  rw [SameDouble, ← Int.cast_inj (α := ℚ), scaled_eq (wellFormed_ofInt hm),
    scaled_eq (wellFormed_ofInt hn)]
  exact mul_left_inj' (by positivity)

/-- The doubles of integers compare as the integers, unless they are equal. -/
theorem lt_ofInt_iff {m n : ℤ} (hm : InRange m) (hn : InRange n) :
    (ofInt m).lt (ofInt n) = true ↔ m < n ∧ ¬ SameDouble m n := by
  rw [lt_iff (wellFormed_ofInt hm) (wellFormed_ofInt hn), sameDouble_iff hm hn]
  constructor
  · intro h
    refine ⟨?_, h.ne⟩
    by_contra hle
    exact absurd (value_ofInt_le hn hm (not_lt.1 hle)) (not_le.2 h)
  · rintro ⟨h, hne⟩
    exact lt_of_le_of_ne (value_ofInt_le hm hn h.le) hne

/-- Rounding keeps the order of integers, save that different ones may become equal. -/
theorem scaled_ofInt_le {m n : ℤ} (hm : InRange m) (hn : InRange n) (h : m ≤ n) :
    (ofInt m).scaled ≤ (ofInt n).scaled := by
  refine not_lt.1 ?_
  intro hlt
  have hnm := ((lt_ofInt_iff hn hm).1 (decide_eq_true hlt)).1
  omega

theorem inRange_of_le {n : ℤ} (h : n.natAbs ≤ 2 ^ 64) : InRange n :=
  h.trans_lt (Nat.pow_lt_pow_right (by decide) (by decide))

/-- Only integers of more than 53 bits are rounded to the same number. -/
theorem le_natAbs_of_sameDouble {m n : ℤ} (hm : InRange m) (hn : InRange n) (hne : m ≠ n)
    (h : SameDouble m n) : 2 ^ 53 ≤ m.natAbs := by
  rw [sameDouble_iff hm hn] at h
  by_contra hlt
  have hsmall : m.natAbs ≤ 2 ^ 53 := by omega
  have hvalue := value_ofInt hsmall
  rw [h] at hvalue
  rcases le_or_gt n.natAbs (2 ^ 53) with hn53 | hn53
  · rw [value_ofInt hn53] at hvalue
    exact hne (by exact_mod_cast hvalue.symm)
  · -- `n` lies beyond the largest or the least integer that is exact, and so does its double
    rcases le_total 0 n with hpos | hneg
    · have hle : (ofInt (2 ^ 53)).value ≤ (ofInt n).value :=
        value_ofInt_le (inRange_of_le (by decide)) hn (by omega)
      rw [value_ofInt (n := 2 ^ 53) (by decide), hvalue] at hle
      have hle' : (2 : ℤ) ^ 53 ≤ m := by exact_mod_cast hle
      omega
    · have hle : (ofInt n).value ≤ (ofInt (-2 ^ 53)).value :=
        value_ofInt_le hn (inRange_of_le (by decide)) (by omega)
      rw [value_ofInt (n := -2 ^ 53) (by decide), hvalue] at hle
      have hle' : m ≤ -2 ^ 53 := by exact_mod_cast hle
      omega

end Binary64

/-! ## Integers of 64 bits -/

/-- The integers that numbers without a fraction hold: 64 bits, with or without a sign. -/
def Number.FitsWord (n : Int) : Prop :=
  Text.int64Min ≤ n ∧ n < 2 ^ 64

theorem Number.FitsWord.inRange {n : Int} (h : FitsWord n) : Binary64.InRange n := by
  have hmin : Text.int64Min = -9223372036854775808 := rfl
  obtain ⟨hlow, hhigh⟩ := h
  exact Binary64.inRange_of_le (by omega)

theorem Text.fitsWord_of_fitsInt64 {n : Int} (h : Text.fitsInt64 n = true) :
    Number.FitsWord n := by
  have hmax : Text.int64Max = 9223372036854775807 := rfl
  have hbounds : Text.int64Min ≤ n ∧ n ≤ Text.int64Max := by
    simpa [Text.fitsInt64] using h
  exact ⟨hbounds.1, by omega⟩

end FormTemplate
