import Mathlib.Data.String.Basic

/-!
# ByteOrder — texts in the order of their bytes

Strings compare character by character.  Comparing their encoded bytes gives the same order.

* `encodedTail` — the bytes of a code point after the first one, six bits to a byte;
* `utf8EncodeChar_eq` — a character is a lead byte and such a tail;
* `utf8EncodeChar_append_lt` — a smaller character has smaller bytes, whatever follows it;
* `byteList_lt_iff` — the order of strings is that of their bytes.
-/

namespace FormTemplate
namespace Text

/-- The encoded bytes of a string. -/
def byteList (s : String) : List UInt8 :=
  s.toByteArray.data.toList

/-! ## One character -/

/-- The bytes that hold the low `6 * k` bits of a code point. -/
def encodedTail : Nat → Nat → List UInt8
  | 0, _ => []
  | k + 1, v => UInt8.ofNat (v / 64 ^ k % 64 + 128) :: encodedTail k v

/-- The number of bytes after the lead byte. -/
def tailSize (v : Nat) : Nat :=
  if v ≤ 0x7F then 0 else if v ≤ 0x7FF then 1 else if v ≤ 0xFFFF then 2 else 3

/-- The lead byte: a mark for the number of bytes, and the bits that the tail leaves. -/
def leadByte (v : Nat) : Nat :=
  if v ≤ 0x7F then v
  else if v ≤ 0x7FF then v / 64 + 0xC0
  else if v ≤ 0xFFFF then v / 64 ^ 2 + 0xE0
  else v / 64 ^ 3 + 0xF0

theorem toNat_val_lt (c : Char) : c.val.toNat < 0x110000 := by
  rcases c.valid with h | h
  · omega
  · exact h.2

theorem utf8EncodeChar_eq (c : Char) :
    String.utf8EncodeChar c =
      UInt8.ofNat (leadByte c.val.toNat) :: encodedTail (tailSize c.val.toNat) c.val.toNat := by
  have hlt := toNat_val_lt c
  generalize hv : c.val.toNat = v at hlt
  simp only [String.utf8EncodeChar, hv, leadByte, tailSize]
  -- the reductions of the lead byte do nothing, since the value fits its size
  split
  · rfl
  · split
    · have hlead : v / 64 % 32 = v / 64 := Nat.mod_eq_of_lt (by omega)
      simp [encodedTail, hlead]
    · split
      · have hlead : v / 4096 % 16 = v / 4096 := Nat.mod_eq_of_lt (by omega)
        simp [encodedTail, hlead]
      · have hlead : v / 262144 % 8 = v / 262144 := Nat.mod_eq_of_lt (by omega)
        simp [encodedTail, hlead]

theorem leadByte_lt {v : Nat} (h : v < 0x110000) : leadByte v < 256 := by
  unfold leadByte
  split_ifs <;> omega

theorem ofNat_cons_lt_iff {m n : Nat} (hm : m < 256) (hn : n < 256) {s t : List UInt8} :
    UInt8.ofNat m :: s < UInt8.ofNat n :: t ↔ m < n ∨ m = n ∧ s < t := by
  rw [List.cons_lt_cons_iff, UInt8.lt_iff_toNat_lt, ← UInt8.toNat_inj, UInt8.toNat_ofNat',
    UInt8.toNat_ofNat', Nat.mod_eq_of_lt hm, Nat.mod_eq_of_lt hn]

/-- Tails of one size compare as the values they hold. -/
theorem encodedTail_append_lt {k v w : Nat} (h : v % 64 ^ k < w % 64 ^ k) (s t : List UInt8) :
    encodedTail k v ++ s < encodedTail k w ++ t := by
  induction k with
  | zero => simp [Nat.mod_one] at h
  | succ k ih =>
      have hv : v % 64 ^ (k + 1) = v % 64 ^ k + 64 ^ k * (v / 64 ^ k % 64) := Nat.mod_pow_succ
      have hw : w % 64 ^ (k + 1) = w % 64 ^ k + 64 ^ k * (w / 64 ^ k % 64) := Nat.mod_pow_succ
      rw [hv, hw] at h
      simp only [encodedTail, List.cons_append]
      rw [ofNat_cons_lt_iff (by omega) (by omega)]
      rcases lt_trichotomy (v / 64 ^ k % 64) (w / 64 ^ k % 64) with hlt | heq | hgt
      · exact .inl (by omega)
      · rw [heq] at h ⊢
        exact .inr ⟨rfl, ih (by omega)⟩
      · -- a greater digit cannot be made up for by the lower ones
        have hlow : w % 64 ^ k < 64 ^ k := Nat.mod_lt _ (Nat.pow_pos (by decide))
        have hhigh : 64 ^ k * (w / 64 ^ k % 64 + 1) ≤ 64 ^ k * (v / 64 ^ k % 64) :=
          Nat.mul_le_mul_left _ hgt
        rw [Nat.mul_add, Nat.mul_one] at hhigh
        omega

theorem utf8EncodeChar_append_lt {c d : Char} (h : c < d) (s t : List UInt8) :
    String.utf8EncodeChar c ++ s < String.utf8EncodeChar d ++ t := by
  have hlt : c.val.toNat < d.val.toNat := h
  have hd := toNat_val_lt d
  rw [utf8EncodeChar_eq, utf8EncodeChar_eq]
  generalize c.val.toNat = v at *
  generalize d.val.toNat = w at *
  simp only [List.cons_append]
  rw [ofNat_cons_lt_iff (leadByte_lt (by omega)) (leadByte_lt hd)]
  -- equal lead bytes mean tails of one size, which then hold the difference
  have hlead : leadByte v < leadByte w ∨
      leadByte v = leadByte w ∧ tailSize v = tailSize w ∧
        v % 64 ^ tailSize v < w % 64 ^ tailSize w := by
    unfold leadByte tailSize
    split_ifs <;> omega
  rcases hlead with hlead | ⟨hlead, hsize, hrest⟩
  · exact .inl hlead
  · rw [hsize] at hrest ⊢
    exact .inr ⟨hlead, encodedTail_append_lt hrest s t⟩

/-! ## Strings -/

theorem byteList_eq (s : String) : byteList s = s.toList.flatMap String.utf8EncodeChar := by
  rw [byteList, ← String.utf8Encode_toList, List.utf8Encode, List.data_toByteArray]

theorem flatMap_utf8EncodeChar_lt {s t : List Char} (h : s < t) :
    s.flatMap String.utf8EncodeChar < t.flatMap String.utf8EncodeChar := by
  induction s generalizing t with
  | nil =>
      cases t with
      | nil => exact absurd h (List.lt_irrefl [])
      | cons d t => simp [utf8EncodeChar_eq]
  | cons c s ih =>
      cases t with
      | nil => exact absurd h (List.not_lt_nil _)
      | cons d t =>
          simp only [List.flatMap_cons]
          rcases List.cons_lt_cons_iff.1 h with hcd | ⟨rfl, hst⟩
          · exact utf8EncodeChar_append_lt hcd _ _
          · exact List.append_left_lt (ih hst)

/-- Strings are ordered as their bytes are. -/
theorem byteList_lt_iff {s t : String} : byteList s < byteList t ↔ s < t := by
  have hmono : ∀ {s t : String}, s < t → byteList s < byteList t := by
    intro s t h
    rw [byteList_eq, byteList_eq]
    exact flatMap_utf8EncodeChar_lt (String.lt_iff_toList_lt.1 h)
  constructor
  · intro h
    rcases lt_trichotomy s t with hlt | rfl | hgt
    · exact hlt
    · exact absurd h (List.lt_irrefl _)
    · exact absurd (List.lt_trans h (hmono hgt)) (List.lt_irrefl _)
  · exact hmono

end Text
end FormTemplate
