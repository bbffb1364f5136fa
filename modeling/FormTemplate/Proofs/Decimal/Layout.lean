import FormTemplate.Decimal.Reading
import FormTemplate.Json.Printer
import FormTemplate.Proofs.Decimal.Integers
import FormTemplate.Proofs.Decimal.Shortest
import FormTemplate.Proofs.Text.Numeral

/-!
# Layout — numbers read back from their texts

* `Text.Denotes` — a text that is read as a coefficient with a decimal exponent;
* `Text.denotes_append`, `Text.denotes_point` — digits without and with a point between them;
* `Binary64.exists_denotes_layout` — however a row of digits is laid out, its value is the same;
* `Binary64.readReal?_text` — the text of a double is read as that double;
* `Binary64.exists_readReal?_numeral` — an integer, however it is written, as its double;
* `Number.readReal?_number` — and so is the text of every number that can be stored.
-/

namespace FormTemplate

/-! ## Reading digits -/

namespace Text

variable {whole fraction rest : List Char} {e : Int}

/-- What may follow the digits of a number: nothing, or an exponent of value `e`. -/
structure IsExponent (rest : List Char) (e : Int) : Prop where
  stops : rest.takeWhile isDigit = []
  no_point : rest.head? ≠ some '.'
  nonblank : ∀ c ∈ rest, isBlank c = false
  read : readExponent? rest = some e

namespace IsExponent

theorem nil : IsExponent [] 0 :=
  ⟨rfl, by simp, by simp, rfl⟩

theorem cons (e : Int) :
    IsExponent ('e' :: (if e < 0 then '-' else '+') :: digits e.natAbs) e := by
  refine ⟨rfl, by simp, ?_, ?_⟩
  · intro c hc
    rcases List.mem_cons.1 hc with rfl | hc
    · rfl
    · rcases List.mem_cons.1 hc with rfl | hc
      · split <;> rfl
      · exact isBlank_of_isDigit (isDigit_of_mem_digits hc)
  · by_cases he : e < 0
    · simp [readExponent?, he, readNat?_digits, abs_of_neg he]
    · simp [readExponent?, he, readNat?_digits, abs_of_nonneg (not_lt.1 he)]

theorem dropWhile_eq (h : IsExponent rest e) : rest.dropWhile isDigit = rest := by
  have happend := List.takeWhile_append_dropWhile (p := isDigit) (l := rest)
  rwa [h.stops, List.nil_append] at happend

theorem takeFraction_eq (h : IsExponent rest e) : takeFraction rest = ([], rest) := by
  unfold takeFraction
  split
  · exact absurd rfl h.no_point
  · rfl

end IsExponent

/-- The text starts with a digit, has no blanks, and is read as `c * 10 ^ e`. -/
structure Denotes (t : List Char) (c : Nat) (e : Int) : Prop where
  head : ∃ d u, t = d :: u ∧ isDigit d = true
  nonblank : ∀ c ∈ t, isBlank c = false
  read : ∀ negative, readUnsignedReal? negative t = Binary64.ofDecimal? negative c e

theorem exists_head_append (hne : whole ≠ []) (hwhole : ∀ c ∈ whole, isDigit c = true) :
    ∃ d u, whole ++ rest = d :: u ∧ isDigit d = true := by
  cases whole with
  | nil => exact absurd rfl hne
  | cons d ds => exact ⟨d, ds ++ rest, rfl, hwhole d List.mem_cons_self⟩

theorem denotes_append (hne : whole ≠ []) (hwhole : ∀ c ∈ whole, isDigit c = true)
    (hrest : IsExponent rest e) : Denotes (whole ++ rest) (decimalValue 0 whole) e := by
  refine ⟨exists_head_append hne hwhole, ?_, ?_⟩
  · intro c hc
    rcases List.mem_append.1 hc with hc | hc
    · exact isBlank_of_isDigit (hwhole c hc)
    · exact hrest.nonblank c hc
  · intro negative
    simp [readUnsignedReal?, List.takeWhile_append_of_pos hwhole,
      List.dropWhile_append_of_pos hwhole, hrest.stops, hrest.dropWhile_eq,
      hrest.takeFraction_eq, hrest.read, hne]

theorem denotes_point (hne : whole ≠ []) (hwhole : ∀ c ∈ whole, isDigit c = true)
    (hfraction : ∀ c ∈ fraction, isDigit c = true) (hrest : IsExponent rest e) :
    Denotes (whole ++ '.' :: (fraction ++ rest)) (decimalValue 0 (whole ++ fraction))
      (e - fraction.length) := by
  refine ⟨exists_head_append hne hwhole, ?_, ?_⟩
  · intro c hc
    simp only [List.mem_append, List.mem_cons] at hc
    rcases hc with hc | rfl | hc | hc
    · exact isBlank_of_isDigit (hwhole c hc)
    · rfl
    · exact isBlank_of_isDigit (hfraction c hc)
    · exact hrest.nonblank c hc
  · intro negative
    have hpoint : isDigit '.' = false := rfl
    simp [readUnsignedReal?, takeFraction, List.takeWhile_append_of_pos hwhole,
      List.dropWhile_append_of_pos hwhole, List.takeWhile_append_of_pos hfraction,
      List.dropWhile_append_of_pos hfraction, hpoint, hrest.stops, hrest.dropWhile_eq,
      hrest.read, hne]

end Text

/-! ## Laying out digits -/

namespace Binary64

open Text

variable {ds : List Char} {last : Int}

theorem denotes_scientific (hne : ds ≠ []) (hds : ∀ c ∈ ds, isDigit c = true)
    {rest : List Char} {e : Int} (hrest : IsExponent rest e) :
    Denotes (pointed ds ++ rest) (decimalValue 0 ds) (e - ds.length + 1) := by
  cases ds with
  | nil => exact absurd rfl hne
  | cons d ds =>
      have hd : ∀ c ∈ [d], isDigit c = true := by simpa using hds d List.mem_cons_self
      cases ds with
      | nil => simpa [pointed] using denotes_append hne hd hrest
      | cons f fs =>
          have hfs : ∀ c ∈ f :: fs, isDigit c = true := fun c hc => hds c (List.mem_cons_of_mem d hc)
          have hpoint := denotes_point (List.cons_ne_nil d []) hd hfs hrest
          have hlast : e - (d :: f :: fs).length + 1 = e - (f :: fs).length := by
            simp
            ring
          rw [hlast]
          exact hpoint

theorem exists_denotes_layout (hne : ds ≠ []) (hds : ∀ c ∈ ds, isDigit c = true) (last : Int) :
    ∃ c e, Denotes (layout ds last) c e ∧ (c : ℚ) * 10 ^ e = decimalValue 0 ds * 10 ^ last := by
  have hlength : 0 < ds.length := List.length_pos_iff.2 hne
  have hzeros : ∀ k : Nat, ∀ c ∈ List.replicate k '0', isDigit c = true := by
    intro k c hc
    rw [List.eq_of_mem_replicate hc]
    rfl
  unfold layout
  simp only
  split
  case isTrue =>
      -- the exponent belongs to the first digit, and `last` to the last one
      have h := denotes_scientific hne hds (IsExponent.cons (last + ds.length - 1))
      rw [show last + ds.length - 1 - ds.length + 1 = last by ring] at h
      exact ⟨_, _, h, rfl⟩
  case isFalse =>
      split
      case isTrue hlast =>
          -- zeros stand behind the row, and one more after the point
          obtain ⟨k, rfl⟩ := Int.eq_ofNat_of_zero_le hlast
          have hwhole : ∀ c ∈ ds ++ List.replicate k '0', isDigit c = true := by
            intro c hc
            exact (List.mem_append.1 hc).elim (hds c) (hzeros k c)
          have hvalue : decimalValue 0 (ds ++ List.replicate k '0' ++ ['0']) =
              10 * (decimalValue 0 ds * 10 ^ k) := by
            rw [decimalValue_append, decimalValue_append, decimalValue_zeros,
              decimalValue_singleton]
            rfl
          have hscale : ((10 * (decimalValue 0 ds * 10 ^ k) : Nat) : ℚ) * 10 ^ ((0 : Int) - 1) =
              decimalValue 0 ds * 10 ^ (k : Int) := by
            push_cast
            rw [zpow_natCast]
            norm_num
            ring
          have h := denotes_point (by simp [hne]) hwhole (hzeros 1) IsExponent.nil
          rw [List.replicate_one, hvalue, List.length_singleton, Nat.cast_one] at h
          exact ⟨_, _, h, hscale⟩
      case isFalse hlast =>
          split
          case isTrue hleading =>
              -- the point stands inside the row
              obtain ⟨k, hk⟩ := Int.eq_ofNat_of_zero_le
                (show 0 ≤ last + ds.length - 1 + 1 by omega)
              have hwhole : ds.take k ≠ [] := by
                rw [← List.length_pos_iff, List.length_take]
                omega
              have hfraction : ∀ c ∈ ds.drop k, isDigit c = true := fun c hc =>
                hds c (List.mem_of_mem_drop hc)
              have h := denotes_point hwhole (fun c hc => hds c (List.mem_of_mem_take hc))
                hfraction IsExponent.nil
              rw [List.take_append_drop, List.append_nil, List.length_drop,
                show (0 : Int) - (ds.length - k : Nat) = last by omega] at h
              rw [hk, Int.toNat_natCast]
              exact ⟨_, _, h, rfl⟩
          case isFalse hleading =>
              -- zeros stand between the point and the row
              obtain ⟨k, hk⟩ := Int.eq_ofNat_of_zero_le
                (show 0 ≤ -(last + ds.length - 1) - 1 by omega)
              have hfraction : ∀ c ∈ List.replicate k '0' ++ ds, isDigit c = true := by
                intro c hc
                exact (List.mem_append.1 hc).elim (hzeros k c) (hds c)
              have hvalue : decimalValue 0 (['0'] ++ (List.replicate k '0' ++ ds)) =
                  decimalValue 0 ds := by
                rw [decimalValue_append, decimalValue_append, decimalValue_zeros]
                simp [decimalValue_singleton, digitValue]
              have h := denotes_point (List.cons_ne_nil '0' []) (hzeros 1) hfraction IsExponent.nil
              rw [hvalue, List.append_nil, List.length_append, List.length_replicate,
                show (0 : Int) - (k + ds.length : Nat) = last by omega] at h
              rw [hk, Int.toNat_natCast]
              exact ⟨_, _, h, rfl⟩

/-! ## The text of a double -/

/-- The number of zeros that a row of digits ends in. -/
def trailingZeros (ds : List Char) : Nat :=
  (ds.reverse.takeWhile (· == '0')).length

/-- A row of digits without the zeros that it ends in. -/
def significant (ds : List Char) : List Char :=
  ds.take (ds.length - trailingZeros ds)

theorem significant_append (ds : List Char) :
    significant ds ++ List.replicate (trailingZeros ds) '0' = ds := by
  have hsplit := List.takeWhile_append_dropWhile (p := (· == '0')) (l := ds.reverse)
  have hall : ds.reverse.takeWhile (· == '0') = List.replicate (trailingZeros ds) '0' := by
    refine List.eq_replicate_of_mem ?_
    intro c hc
    simpa using List.mem_takeWhile_imp hc
  rw [hall] at hsplit
  unfold significant
  generalize trailingZeros ds = zeros at hsplit ⊢
  obtain ⟨u, rfl⟩ : ∃ u, ds = u ++ List.replicate zeros '0' := by
    refine ⟨(ds.reverse.dropWhile (· == '0')).reverse, ?_⟩
    rw [← List.reverse_replicate, ← List.reverse_append, hsplit, List.reverse_reverse]
  rw [List.length_append, List.length_replicate, Nat.add_sub_cancel, List.take_left]

theorem decimalValue_significant (n : Nat) :
    decimalValue 0 (significant (digits n)) * 10 ^ trailingZeros (digits n) = n := by
  rw [← decimalValue_zeros, ← decimalValue_append, significant_append, decimalValue_digits]

theorem exists_denotes_significant {n : Nat} (hn : 0 < n) (last : Int) :
    ∃ c e, Denotes (layout (significant (digits n)) (last + trailingZeros (digits n))) c e ∧
      (c : ℚ) * 10 ^ e = n * 10 ^ last := by
  have hvalue := decimalValue_significant n
  have hne : significant (digits n) ≠ [] := by
    intro hnil
    rw [hnil] at hvalue
    simp [decimalValue] at hvalue
    omega
  have hdigits : ∀ c ∈ significant (digits n), isDigit c = true := fun c hc =>
    isDigit_of_mem_digits (List.mem_of_mem_take hc)
  obtain ⟨c, e, hdenotes, heq⟩ :=
    exists_denotes_layout hne hdigits (last + trailingZeros (digits n))
  -- what the row loses in zeros, its exponent gains
  refine ⟨c, e, hdenotes, heq.trans ?_⟩
  have hcast : (decimalValue 0 (significant (digits n)) : ℚ) * 10 ^ trailingZeros (digits n) = n := by
    exact_mod_cast hvalue
  rw [zpow_add₀ (by norm_num), zpow_natCast, mul_left_comm, mul_comm, hcast]

variable {x : Binary64}

theorem text_eq {n : Nat} {last : Int} (hpos : 0 < x.mantissa) (h : x.shortest = (n, last)) :
    x.text = String.ofList ((if x.negative then ['-'] else []) ++
      layout (significant (digits n)) (last + trailingZeros (digits n))) := by
  have hzero : ¬ x.isZero = true := by simp [isZero, hpos.ne']
  rw [text, h, if_neg hzero]
  rfl

theorem readReal?_sign {t : List Char} {c : Nat} {e : Int} (ht : Denotes t c e) (negative : Bool) :
    readReal? ((if negative then ['-'] else []) ++ t) = readUnsignedReal? negative t := by
  obtain ⟨d, u, rfl, hd⟩ := ht.head
  cases negative with
  | true => rfl
  | false =>
      -- a digit is not a sign
      have hminus : d ≠ '-' := by
        rintro rfl
        cases hd
      have hplus : d ≠ '+' := by
        rintro rfl
        cases hd
      unfold readReal?
      split
      case h_1 h => exact absurd (List.cons.inj h).1 hminus
      case h_2 h => exact absurd (List.cons.inj h).1 hplus
      case h_3 => rfl

theorem trimmed_sign {t : List Char} {c : Nat} {e : Int} (ht : Denotes t c e) (negative : Bool) :
    Trimmed ((if negative then ['-'] else []) ++ t) := by
  refine Trimmed.of_nonblank ?_
  intro c hc
  rcases List.mem_append.1 hc with hc | hc
  · cases negative with
    | true => rw [List.mem_singleton.1 hc]; rfl
    | false => cases hc
  · exact ht.nonblank c hc

theorem text_of_zero (hzero : x.mantissa = 0) :
    x.text = String.ofList ((if x.negative then ['-'] else []) ++ ['0', '.', '0']) := by
  have hisZero : x.isZero = true := by simp [isZero, hzero]
  rw [text, if_pos hisZero]

/-- What follows the sign denotes a number that is rounded to the double. -/
theorem exists_text_eq (hx : x.WellFormed) :
    ∃ t c e, x.text = String.ofList ((if x.negative then ['-'] else []) ++ t) ∧
      Denotes t c e ∧ ofDecimal? x.negative c e = some x := by
  rcases Nat.eq_zero_or_pos x.mantissa with hzero | hpos
  · have hdigit : ∀ c ∈ ['0'], isDigit c = true := by simp [isDigit]
    have hdenotes := denotes_point (List.cons_ne_nil '0' []) hdigit hdigit IsExponent.nil
    have hvalue : decimalValue 0 (['0'] ++ ['0']) = 0 := rfl
    rw [hvalue] at hdenotes
    refine ⟨_, _, _, text_of_zero hzero, hdenotes, ?_⟩
    have hexponent : x.exponent = minExponent :=
      hx.normal.resolve_left (by omega)
    simp [ofDecimal?, ← hzero, ← hexponent]
  · have hadmits := admits_shortest hx hpos
    rcases hshortest : x.shortest with ⟨n, last⟩
    rw [hshortest] at hadmits
    have hn : 0 < n := by
      have hprod := hadmits.pos hpos
      rw [mul_pos_iff_of_pos_right (by positivity)] at hprod
      exact_mod_cast hprod
    obtain ⟨c, e, hdenotes, heq⟩ := exists_denotes_significant hn last
    exact ⟨_, c, e, text_eq hpos hshortest, hdenotes,
      Admits.ofDecimal?_eq hx hpos (heq ▸ hadmits)⟩

/-- The text of a double is read as that double, and it has no blanks at its ends. -/
theorem readReal?_text (hx : x.WellFormed) :
    readReal? x.text.toList = some x ∧ Trimmed x.text.toList := by
  obtain ⟨t, c, e, htext, hdenotes, hdecimal⟩ := exists_text_eq hx
  rw [htext, String.toList_ofList]
  exact ⟨by rw [readReal?_sign hdenotes, hdenotes.read, hdecimal], trimmed_sign hdenotes _⟩

/-! ## The text of an integer -/

theorem denotes_digits (n : Nat) : Denotes (digits n) n 0 := by
  have h := denotes_append (digits_ne_nil n) (fun c => isDigit_of_mem_digits) IsExponent.nil
  rwa [List.append_nil, decimalValue_digits] at h

theorem showInt_eq (n : Int) :
    (showInt n).toList = (if decide (n < 0) then ['-'] else []) ++ digits n.natAbs := by
  unfold showInt
  split
  case isTrue hn => simp [hn]
  case isFalse hn => simp [hn]

theorem ofDecimal?_natAbs {n : Int} (hn : InRange n) (negative : Bool) :
    ofDecimal? negative n.natAbs 0 = ofRatio? negative n.natAbs 1 := by
  rcases Nat.eq_zero_or_pos n.natAbs with hzero | hpos
  · simp [ofDecimal?, ofRatio?, hzero]
  · have hlength : (digits n.natAbs).length < 201 := by
      rw [← Nat.pow_lt_pow_iff_right (show 1 < 10 by decide)]
      calc 10 ^ (digits n.natAbs).length ≤ 10 * n.natAbs := pow_length_digits_le hpos
        _ < 10 * 2 ^ 200 := by
            have hrange : n.natAbs < 2 ^ 200 := hn
            omega
        _ ≤ 10 ^ 201 := by norm_num
    simp only [ofDecimal?]
    rw [if_neg (by simp; omega), if_neg (by omega), if_pos le_rfl]
    simp

theorem readReal?_showInt {n : Int} (hn : InRange n) :
    readReal? (showInt n).toList = some (ofInt n) ∧ Trimmed (showInt n).toList := by
  have hdenotes := denotes_digits n.natAbs
  rw [showInt_eq]
  refine ⟨?_, trimmed_sign hdenotes _⟩
  rw [readReal?_sign hdenotes, hdenotes.read, ofDecimal?_natAbs hn, exists_ofRatio? hn]

theorem readUnsignedReal?_of_digits (hne : ds ≠ []) (hds : ∀ c ∈ ds, isDigit c = true)
    (hrange : InRange (decimalValue 0 ds)) (negative : Bool) :
    readUnsignedReal? negative ds = ofRatio? negative (decimalValue 0 ds) 1 := by
  have hdenotes := denotes_append hne hds IsExponent.nil
  have hwhole := ofDecimal?_natAbs hrange negative
  rw [List.append_nil] at hdenotes
  rw [Int.natAbs_natCast] at hwhole
  rw [hdenotes.read, hwhole]

/-- Whether it is read as an integer or as a decimal number, an integer is compared as one double:
only the zero of `-0` is another double when it is read as a decimal number. -/
theorem exists_readReal?_numeral {t : List Char} {n : Int} (ht : Numeral t n) (hn : InRange n) :
    ∃ y, readReal? t = some y ∧ y.scaled = (ofInt n).scaled := by
  have hplain : ∀ m : Nat, InRange m → ofRatio? false m 1 = some (ofInt m) := by
    intro m hm
    have hpositive : decide ((m : Int) < 0) = false := by
      simp
    have hround := exists_ofRatio? hm
    rwa [hpositive, Int.natAbs_natCast] at hround
  cases ht with
  | @digits ds hne hds =>
      have hdenotes := denotes_append hne hds IsExponent.nil
      rw [List.append_nil] at hdenotes
      refine ⟨_, ?_, rfl⟩
      rw [← hplain _ hn, ← readUnsignedReal?_of_digits hne hds hn]
      exact readReal?_sign hdenotes false
  | @plus ds hne hds =>
      refine ⟨_, ?_, rfl⟩
      rw [← hplain _ hn, ← readUnsignedReal?_of_digits hne hds hn]
      rfl
  | @minus ds hne hds =>
      have hrange : InRange (decimalValue 0 ds) := by
        rwa [InRange, Int.natAbs_neg] at hn
      have hread : readReal? ('-' :: ds) = ofRatio? true (decimalValue 0 ds) 1 :=
        readUnsignedReal?_of_digits hne hds hrange true
      rcases Nat.eq_zero_or_pos (decimalValue 0 ds) with hzero | hpos
      · rw [hread, hzero]
        exact ⟨_, rfl, rfl⟩
      · have hnegative : decide (-(decimalValue 0 ds : Int) < 0) = true := by
          simp [hpos]
        have hround := exists_ofRatio? hn
        rw [hnegative, Int.natAbs_neg, Int.natAbs_natCast] at hround
        exact ⟨_, hread.trans hround, rfl⟩

end Binary64

/-! ## The text of a number -/

namespace Number

/-- The numbers that can be stored: integers of 64 bits and finite doubles. -/
def WellFormed : Number → Prop
  | integer n => FitsWord n
  | real x => x.WellFormed

/-- The text of a number is read as the double that the number stands for. -/
theorem readReal?_number {n : Number} (hn : n.WellFormed) :
    Text.readReal? (Json.number n) = some n.toBinary64 ∧ Text.Trimmed (Json.number n) := by
  cases n with
  | integer n => exact Binary64.readReal?_showInt (FitsWord.inRange hn)
  | real x => exact Binary64.readReal?_text hn

end Number
end FormTemplate
