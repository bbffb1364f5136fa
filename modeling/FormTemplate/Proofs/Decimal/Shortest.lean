import Mathlib.Data.Nat.Cast.Order.Field
import FormTemplate.Decimal.Shortest
import FormTemplate.Proofs.Decimal.Interval

/-!
# Shortest — the search for the fewest digits

The digits of a double are searched for on finer and finer grids of multiples of a power of ten.

* `Interval.Spans` — numerators over one denominator that stand for the interval of a double;
* `Interval.Spans.admits_iff`, `Interval.Spans.below_le` — what is computed with them;
* `Interval.Spans.exists_nearest?` — a grid that is finer than the interval is wide has a hit;
* `admits_shortest` — one of the grids that are tried is that fine, so the digits that are found
  stand for a number that is rounded to the double.
-/

namespace FormTemplate
namespace Binary64

variable {x : Binary64}

/-! ## The value in its interval -/

theorem quarters_pos (x : Binary64) : 0 < x.quarters := by
  unfold quarters
  split <;> decide

theorem lowEnd_lt_magnitude (x : Binary64) : x.lowEnd < x.magnitude := by
  have hquarters : (0 : ℚ) < x.quarters := by
    exact_mod_cast x.quarters_pos
  unfold lowEnd magnitude
  gcongr
  linarith

theorem magnitude_lt_highEnd (x : Binary64) : x.magnitude < x.highEnd := by
  unfold magnitude highEnd
  gcongr
  linarith

/-- Seventeen digits are finer than the interval is wide. -/
theorem magnitude_lt_width (hx : x.WellFormed) :
    x.magnitude < 10 ^ 16 * (x.highEnd - x.lowEnd) := by
  have hwidth : 10 ^ 16 * (x.highEnd - x.lowEnd) =
      10 ^ 16 * (1 / 2 + x.quarters / 4) * 2 ^ x.exponent := by
    unfold highEnd lowEnd
    ring
  rw [hwidth, magnitude]
  gcongr
  by_cases hpower : x.mantissa = 2 ^ 52 ∧ minExponent < x.exponent
  · rw [quarters, if_pos hpower, hpower.1]
    norm_num
  · have hmantissa : (x.mantissa : ℚ) < 2 ^ 53 := by
      exact_mod_cast hx.mantissa_lt
    rw [quarters, if_neg hpower]
    refine hmantissa.trans ?_
    norm_num

/-! ## One step of the search -/

namespace Interval

theorem admits_eq (i : Interval) (n : ℕ) (k : ℤ) :
    i.admits n k =
      let (a, b) := decimalRatio n k
      if i.closed then decide (i.low * b ≤ a * i.den) && decide (a * i.den ≤ i.high * b)
      else decide (i.low * b < a * i.den) && decide (a * i.den < i.high * b) :=
  rfl

theorem exists_below_eq (i : Interval) (hden : 0 < i.den) (k : ℤ) :
    ∃ a b : ℕ, 0 < b ∧ (a : ℚ) / b = i.value / i.den / 10 ^ k ∧ (i.below k).1 = a / b := by
  have hbase : 0 < 10 := by decide
  obtain ⟨hb, hratio⟩ := ratio_div_zpow hbase i.value hden k
  exact ⟨_, _, hb, by exact_mod_cast hratio, rfl⟩

theorem nearest?_eq (i : Interval) (k : ℤ) :
    i.nearest? k =
      let n := (i.below k).1
      if i.admits n k && i.admits (n + 1) k then some (if (i.below k).2 then n else n + 1)
      else if i.admits n k then some n
      else if i.admits (n + 1) k then some (n + 1)
      else none :=
  rfl

theorem admits_of_nearest? {i : Interval} {n : ℕ} {k : ℤ} (h : i.nearest? k = some n) :
    i.admits n k = true := by
  rw [nearest?_eq] at h
  cases hlower : i.admits (i.below k).1 k with
  | false =>
      cases hupper : i.admits ((i.below k).1 + 1) k with
      | false => simp [hlower, hupper] at h
      | true =>
          have hn : (i.below k).1 + 1 = n := by simpa [hlower, hupper] using h
          exact hn ▸ hupper
  | true =>
      cases hupper : i.admits ((i.below k).1 + 1) k with
      | false =>
          have hn : (i.below k).1 = n := by simpa [hlower, hupper] using h
          exact hn ▸ hlower
      | true =>
          have hn : (if (i.below k).2 then (i.below k).1 else (i.below k).1 + 1) = n := by
            simpa [hlower, hupper] using h
          rw [← hn]
          split
          · exact hlower
          · exact hupper

end Interval

/-! ## The interval in numerators -/

/-- The powers of two in a double and in its interval have one denominator. -/
theorem exists_ratio (e : ℤ) :
    ∃ half den : ℕ, 0 < den ∧ (half : ℚ) / den = 2 ^ e ∧
      ∀ (negative : Bool) (m : ℕ), ratio ⟨negative, m, e⟩ = (m * half, den) := by
  by_cases he : 0 ≤ e
  · obtain ⟨k, rfl⟩ := Int.eq_ofNat_of_zero_le he
    exact ⟨2 ^ k, 1, Nat.one_pos, by simp, fun negative m => by simp [ratio]⟩
  · obtain ⟨k, hk⟩ := Int.eq_ofNat_of_zero_le (show 0 ≤ -e by omega)
    obtain rfl : e = -(k : ℤ) := by omega
    refine ⟨1, 2 ^ k, Nat.two_pow_pos k, by simp, fun negative m => ?_⟩
    simp only [ratio, if_neg he, neg_neg, Int.toNat_natCast, Nat.pow_eq, mul_one]

namespace Interval

/-- The interval of a double, with its value in between. -/
structure Spans (i : Interval) (x : Binary64) : Prop where
  den_pos : 0 < i.den
  low_eq : (i.low : ℚ) / i.den = x.lowEnd
  value_eq : (i.value : ℚ) / i.den = x.magnitude
  high_eq : (i.high : ℚ) / i.den = x.highEnd
  closed_iff : i.closed = true ↔ x.mantissa % 2 = 0

theorem spans_interval (hpos : 0 < x.mantissa) : x.interval.Spans x := by
  obtain ⟨half, den, hden, hhalf, hratio⟩ := exists_ratio x.exponent
  have hinterval : x.interval =
      ⟨4 * (x.mantissa * half) - x.quarters * (1 * half), 4 * (x.mantissa * half),
        4 * (x.mantissa * half) + 2 * (1 * half), 4 * den, x.mantissa % 2 == 0⟩ := by
    have hvalue : x.ratio = (x.mantissa * half, den) := hratio x.negative x.mantissa
    simp [interval, hvalue, hratio, quarters]
  have hden' : (den : ℚ) ≠ 0 := by exact_mod_cast hden.ne'
  have hle : x.quarters * (1 * half) ≤ 4 * (x.mantissa * half) := by
    have hquarters : x.quarters ≤ 4 := by
      have htwo := x.quarters_le
      omega
    exact Nat.mul_le_mul hquarters (Nat.mul_le_mul_right half hpos)
  -- value and ends are all quarters of one power of two
  have hscale : ∀ q : ℚ, q * half / (4 * den) = q / 4 * 2 ^ x.exponent := by
    intro q
    rw [← hhalf]
    field_simp
  rw [hinterval]
  refine ⟨Nat.mul_pos (by decide) hden, ?_, ?_, ?_, by simp⟩
  · push_cast [Nat.cast_sub hle]
    rw [lowEnd, show (x.mantissa : ℚ) - x.quarters / 4 = (4 * x.mantissa - x.quarters) / 4 by ring,
      ← hscale]
    ring
  · push_cast
    rw [magnitude, show (x.mantissa : ℚ) = 4 * x.mantissa / 4 by ring, ← hscale]
    ring
  · push_cast
    rw [highEnd, show (x.mantissa : ℚ) + 1 / 2 = (4 * x.mantissa + 2) / 4 by ring, ← hscale]
    ring

namespace Spans

variable {i : Interval}

/-- What is admitted are the decimal numbers in the interval. -/
theorem admits_iff (h : i.Spans x) {n : ℕ} {k : ℤ} :
    i.admits n k = true ↔ x.Admits (n * 10 ^ k) := by
  obtain ⟨hden, hratio⟩ := decimalRatio_eq n k
  rw [admits_eq]
  generalize decimalRatio n k = p at hden hratio
  obtain ⟨a, b⟩ := p
  by_cases hclosed : i.closed = true
  · rw [admits_iff_of_even (h.closed_iff.1 hclosed), ← h.low_eq, ← h.high_eq, ← hratio,
      ratio_le_ratio_iff h.den_pos hden, ratio_le_ratio_iff hden h.den_pos]
    simp only [if_pos hclosed, Bool.and_eq_true, decide_eq_true_eq]
  · rw [admits_iff_of_odd (mt h.closed_iff.2 hclosed), ← h.low_eq, ← h.high_eq, ← hratio,
      ratio_lt_ratio_iff h.den_pos hden, ratio_lt_ratio_iff hden h.den_pos]
    simp only [if_neg hclosed, Bool.and_eq_true, decide_eq_true_eq]

/-! ## One grid -/

/-- The value lies between two neighbours on the grid. -/
theorem below_le (h : i.Spans x) (k : ℤ) :
    ((i.below k).1 : ℚ) * 10 ^ k ≤ x.magnitude ∧
      x.magnitude < ((i.below k).1 + 1 : ℕ) * 10 ^ k := by
  obtain ⟨a, b, hb, hratio, hbelow⟩ := i.exists_below_eq h.den_pos k
  rw [h.value_eq, eq_div_iff (by positivity)] at hratio
  rw [hbelow, ← hratio]
  constructor
  · gcongr
    exact Nat.cast_div_le
  · gcongr
    rw [div_lt_iff₀ (by exact_mod_cast hb)]
    exact_mod_cast (Nat.lt_mul_div_succ a hb).trans_eq (Nat.mul_comm _ _)

/-- A grid that is finer than the interval is wide has a point in it. -/
theorem exists_nearest? (h : i.Spans x) {k : ℤ} (hk : (10 : ℚ) ^ k < x.highEnd - x.lowEnd) :
    ∃ n, i.nearest? k = some n := by
  obtain ⟨hle, hlt⟩ := h.below_le k
  have hsucc : ((((i.below k).1 + 1 : ℕ)) : ℚ) * 10 ^ k = (i.below k).1 * 10 ^ k + 10 ^ k := by
    push_cast
    ring
  have hadmits : i.admits (i.below k).1 k = true ∨ i.admits ((i.below k).1 + 1) k = true := by
    rw [h.admits_iff, h.admits_iff]
    rcases lt_or_ge x.lowEnd ((i.below k).1 * 10 ^ k) with hlow | hlow
    · exact .inl (admits_of_lt hlow (hle.trans_lt x.magnitude_lt_highEnd))
    · -- the lower neighbour is outside, so the step up from it ends inside
      right
      refine admits_of_lt (x.lowEnd_lt_magnitude.trans hlt) ?_
      rw [hsucc]
      linarith
  rw [nearest?_eq]
  rcases hadmits with hn | hn
  · cases hm : i.admits ((i.below k).1 + 1) k <;> simp [hn, hm]
  · cases hm : i.admits (i.below k).1 k <;> simp [hn, hm]

end Spans

/-! ## The first grid -/

/-- The digits of a number before the point, `s` places to the left, tell its size. -/
theorem Spans.zpow_length_digits_le {i : Interval} (h : i.Spans x) {s : ℕ}
    (hs : 1 ≤ x.magnitude * 10 ^ s) :
    (10 : ℚ) ^ ((Text.digits (i.value * Nat.pow 10 s / i.den)).length - (s + 1 : ℕ) : ℤ) ≤
      x.magnitude := by
  have hiden : (0 : ℚ) < i.den := by exact_mod_cast h.den_pos
  have hmoved : ((i.value * Nat.pow 10 s : ℕ) : ℚ) / i.den = x.magnitude * 10 ^ s := by
    rw [← h.value_eq, Nat.pow_eq]
    push_cast
    ring
  have hpos : 0 < i.value * Nat.pow 10 s / i.den := by
    rw [Nat.div_pos_iff]
    refine ⟨h.den_pos, ?_⟩
    rw [← hmoved, one_le_div₀ hiden] at hs
    exact_mod_cast hs
  have hdigits := Text.pow_length_digits_le hpos
  set n := i.value * Nat.pow 10 s / i.den
  have hn : (n : ℚ) ≤ x.magnitude * 10 ^ s := hmoved ▸ Nat.cast_div_le
  rw [zpow_sub₀ (by norm_num), zpow_natCast, zpow_natCast, div_le_iff₀ (by positivity), pow_succ]
  calc (10 : ℚ) ^ (Text.digits n).length ≤ 10 * n := by exact_mod_cast hdigits
    _ ≤ 10 * (x.magnitude * 10 ^ s) := by gcongr
    _ = x.magnitude * (10 ^ s * 10) := by ring

/-- The search starts at the first digit of the value. -/
theorem Spans.leadingExponent_le {i : Interval} (h : i.Spans x) (hx : x.WellFormed)
    (hpos : 0 < x.mantissa) : (10 : ℚ) ^ i.leadingExponent ≤ x.magnitude := by
  -- 340 places are more than there are zeros behind the point
  unfold leadingExponent
  generalize hs : 340 = s
  rw [show (341 : ℤ) = (s + 1 : ℕ) by omega]
  refine h.zpow_length_digits_le ?_
  have hadmits := admits_of_lt x.lowEnd_lt_magnitude x.magnitude_lt_highEnd
  rw [← div_le_iff₀ (by positivity), one_div, ← zpow_natCast, ← zpow_neg]
  refine le_trans ?_ (hadmits.size_bounds hx hpos).1
  exact zpow_le_zpow_right₀ (by norm_num) (by omega)

theorem search_admits {i : Interval} {fuel : ℕ} {k : ℤ}
    (h : ∃ j < fuel, ∃ n, i.nearest? (k - j) = some n) :
    i.admits (i.search k fuel).1 (i.search k fuel).2 = true := by
  induction fuel generalizing k with
  | zero =>
      obtain ⟨j, hj, -⟩ := h
      omega
  | succ fuel ih =>
      rw [search]
      cases hnearest : i.nearest? k with
      | some n => exact admits_of_nearest? hnearest
      | none =>
          -- the hit is on a later grid
          obtain ⟨j, hj, n, hn⟩ := h
          refine ih ?_
          rcases Nat.eq_zero_or_pos j with rfl | hjpos
          · simp [hnearest] at hn
          · refine ⟨j - 1, by omega, n, ?_⟩
            rw [← hn]
            congr 1
            omega

end Interval

/-- The digits that are found stand for a number that is rounded to the double. -/
theorem admits_shortest (hx : x.WellFormed) (hpos : 0 < x.mantissa) :
    x.Admits (x.shortest.1 * 10 ^ x.shortest.2) := by
  have hspans := Interval.spans_interval hpos
  -- if no earlier grid has a hit, the seventeenth one has
  refine hspans.admits_iff.1 (Interval.search_admits ⟨16, by decide, ?_⟩)
  refine hspans.exists_nearest? ?_
  have hlead := hspans.leadingExponent_le hx hpos
  have hwidth := magnitude_lt_width hx
  calc (10 : ℚ) ^ (x.interval.leadingExponent - (16 : ℕ)) =
        10 ^ x.interval.leadingExponent / 10 ^ 16 := by
          rw [zpow_sub₀ (by norm_num), zpow_natCast]
    _ ≤ x.magnitude / 10 ^ 16 := by gcongr
    _ < x.highEnd - x.lowEnd := by
          rw [div_lt_iff₀ (by positivity)]
          linarith

end Binary64
end FormTemplate
