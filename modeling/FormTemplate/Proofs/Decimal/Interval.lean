import FormTemplate.Proofs.Decimal.Rounding
import FormTemplate.Proofs.Text.Digits

/-!
# Interval — the numbers that are rounded to a double

Every double is the rounded value of the numbers around it.

* `Admits` — a number between the ends of a double's interval;
* `Admits.ofRatio?_eq` — such a number is rounded to that double;
* `Admits.ofDecimal?_eq` — the same for decimal numbers.
-/

namespace FormTemplate
namespace Binary64

variable {x : Binary64} {v : ℚ}

/-! ## The ends of the interval -/

/-- The distance to the lower end, in quarters: half as much below a power of two, where the doubles
lie twice as close together. -/
def quarters (x : Binary64) : ℕ :=
  if x.mantissa = 2 ^ 52 ∧ minExponent < x.exponent then 1 else 2

theorem quarters_le (x : Binary64) : x.quarters ≤ 2 := by
  unfold quarters
  split <;> decide

theorem cast_quarters_le (x : Binary64) : (x.quarters : ℚ) ≤ 2 := by
  exact_mod_cast x.quarters_le

def lowEnd (x : Binary64) : ℚ :=
  (x.mantissa - x.quarters / 4) * 2 ^ x.exponent

def highEnd (x : Binary64) : ℚ :=
  (x.mantissa + 1 / 2) * 2 ^ x.exponent

/-- A number between the ends of the interval.  The ends belong to it when the mantissa is even. -/
structure Admits (x : Binary64) (v : ℚ) : Prop where
  low : x.lowEnd ≤ v
  high : v ≤ x.highEnd
  even_of_low : v = x.lowEnd → x.mantissa % 2 = 0
  even_of_high : v = x.highEnd → x.mantissa % 2 = 0

theorem admits_of_lt (hlow : x.lowEnd < v) (hhigh : v < x.highEnd) : x.Admits v :=
  ⟨hlow.le, hhigh.le, fun h => absurd h hlow.ne', fun h => absurd h hhigh.ne⟩

theorem admits_iff_of_even (heven : x.mantissa % 2 = 0) :
    x.Admits v ↔ x.lowEnd ≤ v ∧ v ≤ x.highEnd :=
  ⟨fun h => ⟨h.low, h.high⟩, fun h => ⟨h.1, h.2, fun _ => heven, fun _ => heven⟩⟩

theorem admits_iff_of_odd (hodd : ¬ x.mantissa % 2 = 0) :
    x.Admits v ↔ x.lowEnd < v ∧ v < x.highEnd := by
  constructor
  · intro h
    exact ⟨h.low.lt_of_ne fun heq => hodd (h.even_of_low heq.symm),
      h.high.lt_of_ne fun heq => hodd (h.even_of_high heq)⟩
  · rintro ⟨hlow, hhigh⟩
    exact admits_of_lt hlow hhigh

/-! ## Rounding in the interval -/

namespace Admits

theorem le_div (h : x.Admits v) : (x.mantissa : ℚ) - x.quarters / 4 ≤ v / 2 ^ x.exponent := by
  rw [le_div_iff₀ (by positivity)]
  exact h.low

theorem div_le (h : x.Admits v) : v / 2 ^ x.exponent ≤ x.mantissa + 1 / 2 := by
  rw [div_le_iff₀ (by positivity)]
  exact h.high

theorem lt_two_zpow (hx : x.WellFormed) (h : x.Admits v) : v < 2 ^ (x.exponent + 53) := by
  have hmantissa : (x.mantissa : ℚ) + 1 ≤ 2 ^ 53 := by
    exact_mod_cast hx.mantissa_lt
  rw [two_zpow_add_ofNat, mul_comm, ← div_lt_iff₀ (by positivity)]
  have hle := h.div_le
  linarith

/-- Where the double has the exponent that the number is rounded at, the mantissa is the nearest
integer. -/
theorem nearestEven (h : x.Admits v) : NearestEven (v / 2 ^ x.exponent) x.mantissa := by
  have hpos : (2 : ℚ) ^ x.exponent ≠ 0 := by positivity
  have hquarters := x.cast_quarters_le
  have hlow := h.le_div
  refine ⟨by linarith, h.div_le, ?_, ?_⟩
  · -- a tie below can only be the lower end itself
    intro htie
    refine h.even_of_low ?_
    have htwo : (x.quarters : ℚ) = 2 := by linarith
    rw [lowEnd, htwo, ← div_eq_iff hpos, htie]
    norm_num
  · intro htie
    refine h.even_of_high ?_
    rw [highEnd, ← div_eq_iff hpos, htie]

theorem gridExponent (hx : x.WellFormed) (h : x.Admits v)
    (hpower : x.mantissa = 2 ^ 52 → minExponent < x.exponent → 2 ^ (x.exponent + 52) ≤ v) :
    GridExponent v x.exponent := by
  refine ⟨hx.min_le, h.lt_two_zpow hx, ?_⟩
  rcases hx.min_le.eq_or_lt with hmin | hmin
  · exact .inl hmin.symm
  · right
    -- a mantissa above the least one of 53 bits keeps the number above the power of two
    rcases (hx.normal.resolve_right hmin.ne').eq_or_lt with hmantissa | hmantissa
    · exact hpower hmantissa.symm hmin
    · have hsucc : (2 : ℚ) ^ 52 + 1 ≤ x.mantissa := by
        exact_mod_cast hmantissa
      have hquarters := x.cast_quarters_le
      have hlow := h.le_div
      rw [two_zpow_add_ofNat, mul_comm, ← le_div_iff₀ (by positivity)]
      linarith

/-- Below a power of two, a number is rounded at the next lower exponent, and up. -/
theorem below_power (h : x.Admits v) (hmantissa : x.mantissa = 2 ^ 52)
    (hmin : minExponent < x.exponent) (hv : v < 2 ^ (x.exponent + 52)) :
    GridExponent v (x.exponent - 1) ∧ NearestEven (v / 2 ^ (x.exponent - 1)) (2 ^ 53) := by
  have hquarters : (x.quarters : ℚ) = 1 := by
    rw [quarters, if_pos ⟨hmantissa, hmin⟩, Nat.cast_one]
  have hlow : (2 : ℚ) ^ 52 - 1 / 4 ≤ v / 2 ^ x.exponent := by
    have hle := h.le_div
    rw [hmantissa, hquarters] at hle
    exact_mod_cast hle
  have hhigh : v / 2 ^ x.exponent < 2 ^ 52 := by
    rw [div_lt_iff₀ (by positivity), mul_comm, ← two_zpow_add_ofNat]
    exact hv
  -- there the mantissa would be `2 ^ 53`, which is even, so that a tie goes up
  have hdouble : v / 2 ^ (x.exponent - 1) = 2 * (v / 2 ^ x.exponent) := by
    rw [zpow_sub_one₀ two_ne_zero]
    field_simp
  refine ⟨⟨by omega, ?_, .inr ?_⟩, ?_⟩
  · rwa [show x.exponent - 1 + 53 = x.exponent + 52 by ring]
  · rw [two_zpow_add_ofNat, mul_comm, ← le_div_iff₀ (by positivity), hdouble]
    linarith
  · rw [hdouble]
    refine ⟨?_, ?_, fun _ => by norm_num, fun _ => by norm_num⟩ <;> push_cast <;> linarith

theorem exists_pack_eq (hx : x.WellFormed) (h : x.Admits v) :
    ∃ e m, GridExponent v e ∧ NearestEven (v / 2 ^ e) m ∧ pack x.negative m e = x := by
  by_cases hbelow : x.mantissa = 2 ^ 52 ∧ minExponent < x.exponent ∧ v < 2 ^ (x.exponent + 52)
  · obtain ⟨hmantissa, hmin, hv⟩ := hbelow
    obtain ⟨hgrid, hnearest⟩ := h.below_power hmantissa hmin hv
    refine ⟨_, _, hgrid, hnearest, ?_⟩
    rw [pack, if_pos rfl, sub_add_cancel, ← hmantissa]
  · refine ⟨_, _, h.gridExponent hx ?_, h.nearestEven, ?_⟩
    · intro hmantissa hmin
      by_contra hv
      exact hbelow ⟨hmantissa, hmin, not_le.1 hv⟩
    · rw [pack, if_neg hx.mantissa_lt.ne]

theorem pos (hpos : 0 < x.mantissa) (h : x.Admits v) : 0 < v := by
  have hmantissa : (1 : ℚ) ≤ x.mantissa := by
    exact_mod_cast hpos
  have hquarters := x.cast_quarters_le
  have hlow := h.le_div
  have hdiv : 0 < v / 2 ^ x.exponent := by linarith
  exact (div_pos_iff_of_pos_right (by positivity)).1 hdiv

/-- Every number in the interval is rounded to the double. -/
theorem ofRatio?_eq (hx : x.WellFormed) (hpos : 0 < x.mantissa) {num den : ℕ} (hden : 0 < den)
    (h : x.Admits (num / den)) : ofRatio? x.negative num den = some x := by
  have hnum : 0 < num := by
    have hdiv := h.pos hpos
    rw [div_pos_iff_of_pos_right (by exact_mod_cast hden)] at hdiv
    exact_mod_cast hdiv
  obtain ⟨e, m, he, hm, hpack⟩ := h.exists_pack_eq hx
  obtain ⟨f, n, hf, hn, hround⟩ := Binary64.ofRatio?_eq x.negative hnum hden
  -- the number determines exponent and mantissa, so these are the computed ones
  obtain rfl := he.unique hf
  obtain rfl := hm.unique hn
  rw [hround, hpack, if_pos hx.le_max]

end Admits

/-! ## Decimal numbers -/

/-- Thirteen bits make less than four digits. -/
theorem two_zpow_le_ten_zpow (k : ℕ) : (2 : ℚ) ^ (13 * k : ℤ) ≤ 10 ^ (4 * k : ℤ) := by
  rw [zpow_mul, zpow_mul, zpow_natCast, zpow_natCast]
  exact pow_le_pow_left₀ (by positivity) (by norm_num) k

theorem Admits.size_bounds (hx : x.WellFormed) (hpos : 0 < x.mantissa) (h : x.Admits v) :
    (10 : ℚ) ^ (-332 : ℤ) ≤ v ∧ v < 10 ^ (316 : ℤ) := by
  have hquarters := x.cast_quarters_le
  have hmantissa : (1 : ℚ) ≤ x.mantissa := by
    exact_mod_cast hpos
  have hmin : minExponent ≤ x.exponent := hx.min_le
  have hmax : x.exponent ≤ maxExponent := hx.le_max
  rw [minExponent] at hmin
  rw [maxExponent] at hmax
  constructor
  · have hle : (2 : ℚ) ^ (x.exponent - 1) ≤ v := by
      rw [zpow_sub_one₀ two_ne_zero, mul_comm, ← le_div_iff₀ (by positivity)]
      have hlow := h.le_div
      linarith
    have hpower := two_zpow_le_ten_zpow 83
    rw [← inv_le_inv₀ (by positivity) (by positivity), ← zpow_neg, ← zpow_neg] at hpower
    calc (10 : ℚ) ^ (-332 : ℤ) ≤ 2 ^ (-1079 : ℤ) := hpower
      _ ≤ 2 ^ (x.exponent - 1) := two_zpow_le_iff.2 (by omega)
      _ ≤ v := hle
  · calc v < 2 ^ (x.exponent + 53) := h.lt_two_zpow hx
      _ ≤ 2 ^ (1027 : ℤ) := two_zpow_le_iff.2 (by omega)
      _ ≤ 10 ^ (316 : ℤ) := two_zpow_le_ten_zpow 79

theorem ten_zpow_lt_iff {a b : ℤ} : (10 : ℚ) ^ a < 10 ^ b ↔ a < b :=
  zpow_lt_zpow_iff_right₀ (by norm_num)

/-- The numerator and denominator of a decimal number. -/
def decimalRatio (c : ℕ) (e : ℤ) : ℕ × ℕ :=
  if 0 ≤ e then (c * Nat.pow 10 e.toNat, 1) else (c, Nat.pow 10 (-e).toNat)

theorem decimalRatio_eq (c : ℕ) (e : ℤ) :
    0 < (decimalRatio c e).2 ∧
      ((decimalRatio c e).1 : ℚ) / (decimalRatio c e).2 = c * 10 ^ e := by
  unfold decimalRatio
  split
  case isTrue he =>
      obtain ⟨k, rfl⟩ := Int.eq_ofNat_of_zero_le he
      exact ⟨Nat.one_pos, by simp⟩
  case isFalse he =>
      obtain ⟨k, hk⟩ := Int.eq_ofNat_of_zero_le (show 0 ≤ -e by omega)
      obtain rfl : e = -(k : ℤ) := by omega
      exact ⟨Nat.pow_pos (by decide), by simp [div_eq_mul_inv]⟩

/-- A decimal number in the interval of a double is rounded to it, however it is written. -/
theorem Admits.ofDecimal?_eq (hx : x.WellFormed) (hpos : 0 < x.mantissa) {c : ℕ} {e : ℤ}
    (h : x.Admits (c * 10 ^ e)) : ofDecimal? x.negative c e = some x := by
  have hc : 0 < c := by
    have hprod := h.pos hpos
    rw [mul_pos_iff_of_pos_right (by positivity)] at hprod
    exact_mod_cast hprod
  -- the number of digits tells the size up to a factor of ten
  have hlt : (c : ℚ) < 10 ^ ((Text.digits c).length : ℤ) := by
    rw [zpow_natCast]
    exact_mod_cast Text.lt_pow_length_digits c
  have hle : (10 : ℚ) ^ ((Text.digits c).length : ℤ) ≤ 10 * c := by
    rw [zpow_natCast]
    exact_mod_cast Text.pow_length_digits_le hc
  obtain ⟨hsmall, hlarge⟩ := h.size_bounds hx hpos
  have hlow : -332 < (Text.digits c).length + e := by
    rw [← ten_zpow_lt_iff, zpow_add₀ (by norm_num)]
    refine hsmall.trans_lt ?_
    gcongr
  have hhigh : (Text.digits c).length + e < 317 := by
    rw [← ten_zpow_lt_iff, zpow_add₀ (by norm_num)]
    calc (10 : ℚ) ^ ((Text.digits c).length : ℤ) * 10 ^ e ≤ 10 * c * 10 ^ e := by gcongr
      _ = 10 * (c * 10 ^ e) := by ring
      _ < 10 * 10 ^ (316 : ℤ) := by gcongr
      _ = 10 ^ (317 : ℤ) := by rw [← zpow_one_add₀ (by norm_num)]; norm_num
  obtain ⟨hden, hratio⟩ := decimalRatio_eq c e
  have hround := Admits.ofRatio?_eq hx hpos hden (hratio ▸ h)
  unfold decimalRatio at hround
  simp only [ofDecimal?]
  rw [if_neg (by simp; omega), if_neg (by omega)]
  split
  case isTrue he => simpa only [if_pos he] using hround
  case isFalse he => simpa only [if_neg he] using hround

end Binary64
end FormTemplate
