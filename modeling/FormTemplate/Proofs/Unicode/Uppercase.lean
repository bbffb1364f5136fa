import FormTemplate.Proofs.Unicode.CharSets
import FormTemplate.Unicode.Case

/-!
# Uppercase — what the uppercase form of a character can be

A character has one or more characters for its uppercase form, and most characters are their own.
Which others there can be is read off the tables.

* `toUpper_ne_nil` — no character is lost;
* `upperRanges`, `mem_toUpper` — the characters that can take the place of another.
-/

namespace FormTemplate
namespace Unicode

variable {c d : Char} {n : Nat}

/-- Only a small letter is changed, and by a capital one. -/
theorem asciiUpper_cases (c : Char) :
    c.toUpper = c ∨ 0x41 ≤ c.toUpper.toNat ∧ c.toUpper.toNat ≤ 0x5A := by
  unfold Char.toUpper
  split
  case isTrue hsmall =>
    right
    obtain ⟨hlo, hhi⟩ := hsmall
    have hoffset : ('A'.val - 'a'.val).toNat = 2 ^ 32 - 32 := by
      decide
    simp only [UInt32.le_iff_toNat_le, Char.reduceVal, UInt32.reduceToNat] at hlo hhi
    rw [Char.toNat, UInt32.toNat_add, hoffset]
    omega
  case isFalse => exact .inl rfl

/-! ## Tables -/

theorem mem_of_lookup {rows : List (Nat × List Nat)} {ns : List Nat}
    (h : rows.lookup n = some ns) : (n, ns) ∈ rows := by
  obtain ⟨before, after, rfl, -⟩ := List.lookup_eq_some_iff.1 h
  simp

theorem expansions_ne_nil : ∀ row ∈ upperExpansions, row.2 ≠ [] := by
  decide +kernel

/-- A row that applies moves the code point between those of its two ends. -/
theorem Shift.target_mem {s : Shift} (h : s.applies n = true) :
    s.target s.first ≤ s.target n ∧ s.target n ≤ s.target s.last := by
  simp only [Shift.applies, Bool.and_eq_true, decide_eq_true_eq] at h
  simp only [Shift.target]
  omega

/-- Ranges with all characters of uppercase forms that differ from the character itself. -/
def upperRanges : List CharRange :=
  ⟨0x41, 0x5A⟩ :: ((upperExpansions.flatMap fun row => row.2.map fun n => ⟨n, n⟩) ++
    upperShifts.map fun s => ⟨s.target s.first, s.target s.last⟩)

/-- None of them is a surrogate, so that each code point has its character. -/
theorem upperRanges_valid :
    ∀ r ∈ upperRanges, r.hi < 0xD800 ∨ 0xDFFF < r.lo ∧ r.hi < 0x110000 := by
  decide +kernel

theorem toNat_ofNat_of_covers (h : Covers upperRanges n) : (Char.ofNat n).toNat = n := by
  obtain ⟨r, hr, hlo, hhi⟩ := h
  have hvalid := upperRanges_valid r hr
  rw [Char.ofNat, dif_pos]
  · rfl
  · exact hvalid.imp (by omega) (by omega)

/-! ## Uppercase forms -/

theorem toUpper_ne_nil (c : Char) : toUpper c ≠ [] := by
  unfold toUpper
  split
  case isTrue => exact List.cons_ne_nil _ _
  case isFalse =>
    split
    case h_1 ns hns =>
      have hrow := expansions_ne_nil _ (mem_of_lookup hns)
      simpa using hrow
    case h_2 => exact List.cons_ne_nil _ _

theorem mem_toUpper (hd : d ∈ toUpper c) : d = c ∨ Covers upperRanges d.toNat := by
  -- a code point of the tables is the code point of its character
  have hcovered (m : Nat) (hm : Covers upperRanges m) (hdm : d = Char.ofNat m) :
      d = c ∨ Covers upperRanges d.toNat := by
    rw [hdm, toNat_ofNat_of_covers hm]
    exact .inr hm
  unfold toUpper at hd
  split at hd
  case isTrue =>
    rw [List.mem_singleton.1 hd]
    exact (asciiUpper_cases c).imp_right fun h => covers_cons.2 (.inl h)
  case isFalse =>
    split at hd
    case h_1 ns hns =>
      obtain ⟨m, hm, rfl⟩ := List.mem_map.1 hd
      refine hcovered m (covers_cons.2 (.inr (covers_append.2 (.inl ?_)))) rfl
      refine ⟨⟨m, m⟩, ?_, Nat.le_refl _, Nat.le_refl _⟩
      exact List.mem_flatMap.2 ⟨_, mem_of_lookup hns, List.mem_map_of_mem hm⟩
    case h_2 =>
      rw [Shift.lookup?] at hd
      cases hrow : upperShifts.find? fun s => s.applies c.toNat with
      | none =>
        rw [hrow] at hd
        exact .inl (List.mem_singleton.1 hd)
      | some s =>
        rw [hrow] at hd
        refine hcovered (s.target c.toNat) ?_ (List.mem_singleton.1 hd)
        have happlies : s.applies c.toNat = true := by
          simpa using List.find?_some hrow
        refine covers_cons.2 (.inr (covers_append.2 (.inr ?_)))
        exact ⟨_, List.mem_map_of_mem (List.mem_of_find?_eq_some hrow),
          Shift.target_mem happlies⟩

end Unicode
end FormTemplate
