import Mathlib.Algebra.Order.Field.Power
import Mathlib.Data.Rat.Cast.Order
import Mathlib.Tactic.FieldSimp
import Mathlib.Tactic.Linarith
import Mathlib.Tactic.Positivity
import Mathlib.Tactic.Ring
import FormTemplate.Decimal.Binary64

/-!
# Rounding — what `Binary64.ofRatio?` makes of a ratio

Rounding is computed on numerators and denominators.  Here it is said of the rational number that they
stand for: which exponent the number is rounded at, and which multiple of that power of two is taken.

* `NearestEven` — the integer nearest to a rational, the even one of two equally near;
* `GridExponent` — the exponent at which a number is rounded;
* `Rounds` — a double that is a number rounded;
* `Rounds.magnitude_le` — a greater number is never rounded to a smaller double;
* `ofRatio?_eq` — the double of a ratio is its number rounded, unless that is out of range.
-/

namespace FormTemplate
namespace Binary64

/-- The absolute value of a double. -/
def magnitude (x : Binary64) : ℚ :=
  x.mantissa * 2 ^ x.exponent

/-! ## The nearest integer -/

/-- `k` is the integer nearest to `q`, the even one of two equally near. -/
structure NearestEven (q : ℚ) (k : ℕ) : Prop where
  low : (k : ℚ) - 1 / 2 ≤ q
  high : q ≤ k + 1 / 2
  even_of_low : q = k - 1 / 2 → k % 2 = 0
  even_of_high : q = k + 1 / 2 → k % 2 = 0

namespace NearestEven

variable {q r : ℚ} {j k : ℕ}

/-- Two neighbours that are both nearest are tied, and only one of them is even. -/
theorem le_of_le (hj : NearestEven q j) (hk : NearestEven r k) (h : q ≤ r) : j ≤ k := by
  by_contra hlt
  have hsucc : ((k + 1 : ℕ) : ℚ) ≤ j := by
    exact_mod_cast Nat.succ_le_of_lt (not_le.1 hlt)
  push_cast at hsucc
  have hlow := hj.low
  have hhigh := hk.high
  have hjk : (j : ℚ) = k + 1 := by linarith
  have hj2 := hj.even_of_low (by linarith)
  have hk2 := hk.even_of_high (by linarith)
  have hsucc' : j = k + 1 := by exact_mod_cast hjk
  omega

theorem unique (hj : NearestEven q j) (hk : NearestEven q k) : j = k :=
  le_antisymm (hj.le_of_le hk le_rfl) (hk.le_of_le hj le_rfl)

theorem natCast (k : ℕ) : NearestEven k k :=
  ⟨by linarith, by linarith, fun h => by linarith, fun h => by linarith⟩

/-! ### By the remainder -/

theorem of_lt_half (h0 : 0 ≤ r) (hr : r < 1 / 2) : NearestEven (k + r) k :=
  ⟨by linarith, by linarith, fun h => by linarith, fun h => by linarith⟩

theorem of_half_lt (hr : 1 / 2 < r) (h1 : r < 1) : NearestEven (k + r) (k + 1) := by
  refine ⟨?_, ?_, fun h => ?_, fun h => ?_⟩
  · push_cast
    linarith
  · push_cast
    linarith
  · push_cast at h
    linarith
  · push_cast at h
    linarith

theorem half_of_even (hk : k % 2 = 0) : NearestEven (k + 1 / 2) k :=
  ⟨by linarith, by linarith, fun _ => hk, fun _ => hk⟩

theorem half_of_odd (hk : ¬ k % 2 = 0) : NearestEven (k + 1 / 2) (k + 1) := by
  have heven : (k + 1) % 2 = 0 := by omega
  refine ⟨?_, ?_, fun _ => heven, fun _ => heven⟩
  · push_cast
    linarith
  · push_cast
    linarith

end NearestEven

theorem ratio_le_ratio_iff {a b c d : ℕ} (hb : 0 < b) (hd : 0 < d) :
    (a : ℚ) / b ≤ c / d ↔ a * d ≤ c * b := by
  rw [div_le_div_iff₀ (by exact_mod_cast hb) (by exact_mod_cast hd)]
  exact_mod_cast Iff.rfl

theorem ratio_lt_ratio_iff {a b c d : ℕ} (hb : 0 < b) (hd : 0 < d) :
    (a : ℚ) / b < c / d ↔ a * d < c * b :=
  lt_iff_lt_of_le_iff_le (ratio_le_ratio_iff hd hb)

theorem div_eq_quotient_add {n d : ℕ} (hd : 0 < d) :
    (n : ℚ) / d = (n / d : ℕ) + ((n % d : ℕ) : ℚ) / d := by
  have hd' : (d : ℚ) ≠ 0 := by exact_mod_cast hd.ne'
  have hdiv : (n : ℚ) = d * (n / d : ℕ) + (n % d : ℕ) := by
    exact_mod_cast (Nat.div_add_mod n d).symm
  rw [div_eq_iff hd', add_mul, div_mul_cancel₀ _ hd']
  linarith

theorem nearestEven_roundHalfEven {n d : ℕ} (hd : 0 < d) :
    NearestEven (n / d) (roundHalfEven n d) := by
  have hless : ((n % d : ℕ) : ℚ) / d < 1 / 2 ↔ 2 * (n % d) < d := by
    have h := ratio_lt_ratio_iff (a := n % d) (c := 1) hd two_pos
    rwa [Nat.cast_one, Nat.cast_ofNat, one_mul, mul_comm] at h
  have hmore : (1 : ℚ) / 2 < ((n % d : ℕ) : ℚ) / d ↔ d < 2 * (n % d) := by
    have h := ratio_lt_ratio_iff (a := 1) (c := n % d) two_pos hd
    rwa [Nat.cast_one, Nat.cast_ofNat, one_mul, mul_comm (n % d)] at h
  have hlow : (0 : ℚ) ≤ ((n % d : ℕ) : ℚ) / d := by positivity
  have hhigh : ((n % d : ℕ) : ℚ) / d < 1 := by
    rw [div_lt_one (by exact_mod_cast hd)]
    exact_mod_cast Nat.mod_lt n hd
  rw [div_eq_quotient_add hd]
  simp only [roundHalfEven]
  generalize ((n % d : ℕ) : ℚ) / d = r at hless hmore hlow hhigh
  split
  case isTrue hlt => exact .of_lt_half hlow (hless.2 hlt)
  case isFalse hge =>
      split
      case isTrue hgt => exact .of_half_lt (hmore.2 hgt) hhigh
      case isFalse hle =>
          obtain rfl : r = 1 / 2 :=
            le_antisymm (not_lt.1 (mt hmore.1 hle)) (not_lt.1 (mt hless.1 hge))
          split
          case isTrue heven => exact .half_of_even heven
          case isFalse hodd => exact .half_of_odd hodd

/-! ## The exponent of a number -/

/-- Two powers of two compare as their exponents. -/
theorem two_zpow_le_iff {a b : ℤ} : (2 : ℚ) ^ a ≤ 2 ^ b ↔ a ≤ b :=
  zpow_le_zpow_iff_right₀ one_lt_two

theorem two_zpow_lt_iff {a b : ℤ} : (2 : ℚ) ^ a < 2 ^ b ↔ a < b :=
  zpow_lt_zpow_iff_right₀ one_lt_two

theorem two_zpow_add (a : ℤ) (k : ℕ) : (2 : ℚ) ^ (a + k) = 2 ^ a * 2 ^ k := by
  rw [zpow_add₀ two_ne_zero, zpow_natCast]

theorem two_zpow_add_ofNat (a : ℤ) (k : ℕ) [k.AtLeastTwo] :
    (2 : ℚ) ^ (a + ofNat(k)) = 2 ^ a * 2 ^ (ofNat(k) : ℕ) :=
  two_zpow_add a k

/-- The exponent at which the mantissa of `v` has 53 bits, or the least exponent. -/
structure GridExponent (v : ℚ) (e : ℤ) : Prop where
  min_le : minExponent ≤ e
  lt : v < 2 ^ (e + 53)
  le : e = minExponent ∨ (2 : ℚ) ^ (e + 52) ≤ v

namespace GridExponent

variable {v w : ℚ} {e f : ℤ}

theorem le_of_le (he : GridExponent v e) (hf : GridExponent w f) (h : v ≤ w) : e ≤ f := by
  rcases he.le with rfl | hle
  · exact hf.min_le
  · have hlt : (2 : ℚ) ^ (e + 52) < 2 ^ (f + 53) := (hle.trans h).trans_lt hf.lt
    have hexp := two_zpow_lt_iff.1 hlt
    omega

theorem unique (he : GridExponent v e) (hf : GridExponent v f) : e = f :=
  le_antisymm (he.le_of_le hf le_rfl) (hf.le_of_le he le_rfl)

/-- The mantissa has at most 53 bits before it is rounded. -/
theorem div_lt (he : GridExponent v e) : v / 2 ^ e < 2 ^ 53 := by
  rw [div_lt_iff₀ (by positivity), mul_comm, ← two_zpow_add_ofNat]
  exact he.lt

theorem le_div (he : GridExponent v e) : e = minExponent ∨ 2 ^ 52 ≤ v / 2 ^ e := by
  refine he.le.imp_right fun hle => ?_
  rw [le_div_iff₀ (by positivity), mul_comm, ← two_zpow_add_ofNat]
  exact hle

end GridExponent

/-- Dividing a ratio by a power multiplies its denominator, or its numerator when the exponent is
negative. -/
theorem ratio_div_zpow {base : ℕ} (hbase : 0 < base) (num : ℕ) {den : ℕ} (hden : 0 < den) (e : ℤ) :
    let p := if 0 ≤ e then (num, den * base ^ e.toNat) else (num * base ^ (-e).toNat, den)
    0 < p.2 ∧ (p.1 : ℚ) / p.2 = num / den / (base : ℚ) ^ e := by
  have hden' : (den : ℚ) ≠ 0 := by exact_mod_cast hden.ne'
  have hbase' : (base : ℚ) ≠ 0 := by exact_mod_cast hbase.ne'
  intro p
  by_cases he : 0 ≤ e
  · obtain ⟨k, rfl⟩ := Int.eq_ofNat_of_zero_le he
    have hp : p = (num, den * base ^ k) := by simp [p]
    rw [hp]
    refine ⟨Nat.mul_pos hden (Nat.pow_pos hbase), ?_⟩
    push_cast
    rw [zpow_natCast, div_div]
  · obtain ⟨k, hk⟩ := Int.eq_ofNat_of_zero_le (show 0 ≤ -e by omega)
    obtain rfl : e = -(k : ℤ) := by omega
    have hp : p = (num * base ^ k, den) := by
      simp only [p, if_neg he, neg_neg, Int.toNat_natCast]
    rw [hp]
    refine ⟨hden, ?_⟩
    push_cast
    rw [zpow_neg, zpow_natCast]
    field_simp

theorem atExponent_ratio (num : ℕ) {den : ℕ} (hden : 0 < den) (e : ℤ) :
    0 < (atExponent num den e).2 ∧
      ((atExponent num den e).1 : ℚ) / (atExponent num den e).2 = num / den / 2 ^ e :=
  ratio_div_zpow two_pos num hden e

theorem two_zpow_log2_le {n : ℕ} (hn : 0 < n) : (2 : ℚ) ^ (Nat.log2 n : ℤ) ≤ n := by
  rw [zpow_natCast]
  exact_mod_cast Nat.log2_self_le hn.ne'

theorem lt_two_zpow_log2 (n : ℕ) : (n : ℚ) < 2 ^ ((Nat.log2 n : ℤ) + 1) := by
  exact_mod_cast Nat.lt_log2_self (n := n)

/-- The logarithms of numerator and denominator tell the size of a ratio up to a factor of four. -/
theorem ratio_bounds_log2 {num den : ℕ} (hnum : 0 < num) (hden : 0 < den) :
    (2 : ℚ) ^ ((Nat.log2 num : ℤ) - Nat.log2 den - 1) < num / den ∧
      (num : ℚ) / den < 2 ^ ((Nat.log2 num : ℤ) - Nat.log2 den + 1) := by
  have hden' : (0 : ℚ) < den := by exact_mod_cast hden
  constructor
  · rw [lt_div_iff₀ hden']
    calc (2 : ℚ) ^ ((Nat.log2 num : ℤ) - Nat.log2 den - 1) * den <
          2 ^ ((Nat.log2 num : ℤ) - Nat.log2 den - 1) * 2 ^ ((Nat.log2 den : ℤ) + 1) := by
          gcongr
          exact lt_two_zpow_log2 den
      _ = 2 ^ (Nat.log2 num : ℤ) := by
          rw [← zpow_add₀ two_ne_zero]
          congr 1
          omega
      _ ≤ num := two_zpow_log2_le hnum
  · rw [div_lt_iff₀ hden']
    calc (num : ℚ) < 2 ^ ((Nat.log2 num : ℤ) + 1) := lt_two_zpow_log2 num
      _ = 2 ^ ((Nat.log2 num : ℤ) - Nat.log2 den + 1) * 2 ^ (Nat.log2 den : ℤ) := by
          rw [← zpow_add₀ two_ne_zero]
          congr 1
          omega
      _ ≤ 2 ^ ((Nat.log2 num : ℤ) - Nat.log2 den + 1) * den := by
          gcongr
          exact two_zpow_log2_le hden

/-- Whether a mantissa has 53 bits is seen from the quotient without its fraction. -/
theorem quotient_lt_iff {num den : ℕ} (hden : 0 < den) (e : ℤ) :
    (atExponent num den e).1 / (atExponent num den e).2 < Nat.pow 2 52 ↔
      (num : ℚ) / den < 2 ^ (e + 52) := by
  obtain ⟨hpos, hratio⟩ := atExponent_ratio num hden e
  have hpos' : (0 : ℚ) < (atExponent num den e).2 := by exact_mod_cast hpos
  rw [Nat.div_lt_iff_lt_mul hpos, ← Nat.cast_lt (α := ℚ), Nat.cast_mul, ← div_lt_iff₀ hpos',
    hratio, div_lt_iff₀ (by positivity), two_zpow_add_ofNat, mul_comm, Nat.pow_eq]
  push_cast
  rfl

theorem gridExponent_max {v : ℚ} {e : ℤ} (hlt : v < 2 ^ (e + 53)) (hle : (2 : ℚ) ^ (e + 52) ≤ v) :
    GridExponent v (max minExponent e) := by
  rcases le_total minExponent e with hmin | hmin
  · rw [max_eq_right hmin]
    exact ⟨hmin, hlt, .inr hle⟩
  · rw [max_eq_left hmin]
    exact ⟨le_rfl, hlt.trans_le (two_zpow_le_iff.2 (by omega)), .inl rfl⟩

theorem gridExponent_exponentOf {num den : ℕ} (hnum : 0 < num) (hden : 0 < den) :
    GridExponent (num / den) (exponentOf num den) := by
  obtain ⟨hlow, hhigh⟩ := ratio_bounds_log2 hnum hden
  set e : ℤ := (Nat.log2 num : ℤ) - (Nat.log2 den : ℤ) - 52 with he
  have hexponent : exponentOf num den =
      max minExponent (if (num : ℚ) / den < 2 ^ (e + 52) then e - 1 else e) := by
    simp only [exponentOf, ← he, quotient_lt_iff hden]
  rw [hexponent]
  -- one comparison tells which of the two exponents is right
  split
  case isTrue hlt =>
      refine gridExponent_max (hlt.trans_eq ?_) (hlow.le.trans_eq' ?_)
      · congr 1
        omega
      · congr 1
        omega
  case isFalse hge =>
      refine gridExponent_max (hhigh.trans_eq ?_) (not_lt.1 hge)
      congr 1
      omega

/-! ## Rounded numbers -/

theorem NearestEven.mantissa_le {v : ℚ} {e : ℤ} {m : ℕ} (he : GridExponent v e)
    (hm : NearestEven (v / 2 ^ e) m) : m ≤ 2 ^ 53 := by
  refine hm.le_of_le (NearestEven.natCast (2 ^ 53)) ?_
  exact_mod_cast he.div_lt.le

theorem NearestEven.le_mantissa {v : ℚ} {e : ℤ} {m : ℕ} (he : GridExponent v e)
    (hm : NearestEven (v / 2 ^ e) m) : e = minExponent ∨ 2 ^ 52 ≤ m := by
  refine he.le_div.imp_right fun hle => (NearestEven.natCast (2 ^ 52)).le_of_le hm ?_
  exact_mod_cast hle

/-- The double made of a mantissa that may have been rounded up to 54 bits. -/
def pack (negative : Bool) (m : ℕ) (e : ℤ) : Binary64 :=
  if m = 2 ^ 53 then ⟨negative, 2 ^ 52, e + 1⟩ else ⟨negative, m, e⟩

theorem negative_pack (negative : Bool) (m : ℕ) (e : ℤ) :
    (pack negative m e).negative = negative := by
  unfold pack
  split <;> rfl

theorem magnitude_pack (negative : Bool) (m : ℕ) (e : ℤ) :
    (pack negative m e).magnitude = m * 2 ^ e := by
  unfold pack
  split
  case isTrue hm =>
      rw [magnitude, hm, zpow_add₀ two_ne_zero]
      push_cast
      ring
  case isFalse => rfl

/-- The form that doubles have. -/
structure WellFormed (x : Binary64) : Prop where
  mantissa_lt : x.mantissa < 2 ^ 53
  min_le : minExponent ≤ x.exponent
  le_max : x.exponent ≤ maxExponent
  normal : 2 ^ 52 ≤ x.mantissa ∨ x.exponent = minExponent

/-- A double whose absolute value is `v` rounded. -/
def Rounds (v : ℚ) (x : Binary64) : Prop :=
  ∃ e m, GridExponent v e ∧ NearestEven (v / 2 ^ e) m ∧ x.magnitude = m * 2 ^ e

namespace Rounds

variable {v w : ℚ} {x y : Binary64}

theorem magnitude_le (hx : Rounds v x) (hy : Rounds w y) (h : v ≤ w) :
    x.magnitude ≤ y.magnitude := by
  obtain ⟨e, m, he, hm, hxm⟩ := hx
  obtain ⟨f, n, hf, hn, hyn⟩ := hy
  rw [hxm, hyn]
  rcases (he.le_of_le hf h).eq_or_lt with rfl | hlt
  · have hmn : m ≤ n := hm.le_of_le hn (by gcongr)
    gcongr
  · -- the power of two between the two exponents is rounded to itself
    have hm53 : m ≤ 2 ^ 53 := hm.mantissa_le he
    have hn52 : 2 ^ 52 ≤ n := by
      have hmin := he.min_le
      exact (hn.le_mantissa hf).resolve_left (by omega)
    calc (m : ℚ) * 2 ^ e ≤ (2 ^ 53 : ℕ) * 2 ^ e := by gcongr
      _ = 2 ^ (e + 53) := by
          rw [two_zpow_add_ofNat]
          push_cast
          ring
      _ ≤ 2 ^ (f + 52) := two_zpow_le_iff.2 (by omega)
      _ = (2 ^ 52 : ℕ) * 2 ^ f := by
          rw [two_zpow_add_ofNat]
          push_cast
          ring
      _ ≤ n * 2 ^ f := by gcongr

/-- A multiple of the power of two that it is rounded at stays as it is. -/
theorem magnitude_eq_of_multiple (hx : Rounds v x) {k : ℕ} {e : ℤ} (hv : v = k * 2 ^ e)
    (he : ∀ f, GridExponent v f → f ≤ e) : x.magnitude = v := by
  obtain ⟨f, m, hf, hm, hxm⟩ := hx
  obtain ⟨j, hj⟩ := Int.eq_ofNat_of_zero_le (show 0 ≤ e - f by have := he f hf; omega)
  have hdiv : v / 2 ^ f = ((k * 2 ^ j : ℕ) : ℚ) := by
    rw [hv, show e = f + j by omega, two_zpow_add, div_eq_iff (by positivity)]
    push_cast
    ring
  rw [hdiv] at hm
  have hmk := hm.unique (NearestEven.natCast (k * 2 ^ j))
  rw [hxm, hmk, ← hdiv, div_mul_cancel₀ _ (by positivity)]

end Rounds

/-- The double of a ratio is its number rounded, unless that is out of range. -/
theorem ofRatio?_eq (negative : Bool) {num den : ℕ} (hnum : 0 < num) (hden : 0 < den) :
    ∃ e m, GridExponent (num / den) e ∧ NearestEven (num / den / 2 ^ e) m ∧
      ofRatio? negative num den =
        if (pack negative m e).exponent ≤ maxExponent then some (pack negative m e) else none := by
  obtain ⟨hpos, hratio⟩ := atExponent_ratio num hden (exponentOf num den)
  refine ⟨exponentOf num den, _, gridExponent_exponentOf hnum hden,
    hratio ▸ nearestEven_roundHalfEven hpos, ?_⟩
  simp [ofRatio?, hnum.ne', pack]

theorem wellFormed_pack {v : ℚ} {negative : Bool} {e : ℤ} {m : ℕ} (he : GridExponent v e)
    (hm : NearestEven (v / 2 ^ e) m) (hmax : (pack negative m e).exponent ≤ maxExponent) :
    (pack negative m e).WellFormed := by
  have hmin := he.min_le
  have hle := hm.mantissa_le he
  have hnormal := hm.le_mantissa he
  unfold pack at hmax ⊢
  split at hmax
  case isTrue h => exact ⟨by simp [h], by simp [h]; omega, by simpa [h] using hmax, by simp [h]⟩
  case isFalse h =>
      rw [if_neg h]
      exact ⟨by simp; omega, hmin, hmax, hnormal.symm⟩

theorem gridExponent_zero : GridExponent 0 minExponent :=
  ⟨le_rfl, by positivity, .inl rfl⟩

theorem wellFormed_of_ofRatio? {negative : Bool} {num den : ℕ} {x : Binary64} (hden : 0 < den)
    (h : ofRatio? negative num den = some x) : x.WellFormed := by
  rcases num.eq_zero_or_pos with rfl | hnum
  · simp only [ofRatio?, if_true, Option.some.injEq] at h
    subst h
    exact ⟨Nat.two_pow_pos 53, le_rfl, (by decide : minExponent ≤ maxExponent), .inr rfl⟩
  · obtain ⟨e, m, he, hm, hx⟩ := ofRatio?_eq negative hnum hden
    rw [hx] at h
    split at h
    case isTrue hmax =>
        cases h
        exact wellFormed_pack he hm hmax
    case isFalse => cases h

theorem rounds_of_ofRatio? {negative : Bool} {num den : ℕ} {x : Binary64} (hden : 0 < den)
    (h : ofRatio? negative num den = some x) : Rounds (num / den) x ∧ x.negative = negative := by
  rcases num.eq_zero_or_pos with rfl | hnum
  · simp only [ofRatio?, if_true, Option.some.injEq] at h
    subst h
    refine ⟨⟨minExponent, 0, by simpa using gridExponent_zero, ?_, by simp [magnitude]⟩, rfl⟩
    simpa using NearestEven.natCast 0
  · obtain ⟨e, m, he, hm, hx⟩ := ofRatio?_eq negative hnum hden
    rw [hx] at h
    split at h
    · cases h
      exact ⟨⟨e, m, he, hm, magnitude_pack negative m e⟩, negative_pack negative m e⟩
    · cases h

end Binary64
end FormTemplate
