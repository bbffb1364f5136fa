import FormTemplate.Proofs.Text.Cutting

/-!
# Segmentation — the pieces that a text is cut into

Separators of several characters can overlap with the pieces around them and with themselves, so
that a text may be put together from pieces in more than one way.  A text is cut at its first
separator, then at the first one behind it, and so on; what the last piece has of separators stays.

* `Segmentation` — pieces that a text is put together from, each cut off at its first separator;
* `segmentation_singleton_iff`, `segmentation_cons_cons_iff` — segmentations piece by piece;
* `segmentation_cut`, `Segmentation.eq_cut` — every text has exactly one segmentation, the one that
  `cut` finds.
-/

namespace FormTemplate
namespace Text

variable {sep t : List Char} {n : Nat}

/-- `ps` are at most `n` pieces of `t`, all of it but the separators between them. -/
structure Segmentation (sep : List Char) (n : Nat) (t : List Char) (ps : List (List Char)) :
    Prop where
  ne_nil : ps ≠ []
  length_le : ps.length ≤ n
  text : t = join sep ps
  /-- No separator starts in a piece before the one behind it. -/
  cut_first : ∀ p ∈ ps.dropLast, StartsNowhere sep p sep
  /-- With fewer than `n` pieces, no separator is left in the last one. -/
  cut_all : ps.length < n → ∀ p ∈ ps.getLast?, ¬ sep <:+: p

/-- What follows a separator makes no difference to where the separators before it start. -/
theorem startsNowhere_append_iff {s rest : List Char} :
    StartsNowhere sep s (sep ++ rest) ↔ StartsNowhere sep s sep := by
  have hsame (y : List Char) : sep <+: y ++ (sep ++ rest) ↔ sep <+: y ++ sep := by
    rw [← List.append_assoc]
    constructor
    · -- an occurrence that starts in `y` is over before the next separator is
      intro hstart
      exact List.prefix_of_prefix_length_le hstart (List.prefix_append _ _) (by simp)
    · intro hstart
      exact hstart.trans (List.prefix_append _ _)
  simp only [StartsNowhere, hsame]

/-! ## Piece by piece -/

theorem segmentation_singleton_iff {p : List Char} :
    Segmentation sep (n + 1) t [p] ↔ t = p ∧ (n = 0 ∨ ¬ sep <:+: p) := by
  constructor
  · intro h
    refine ⟨h.text, ?_⟩
    by_cases hn : n = 0
    · exact .inl hn
    · refine .inr (h.cut_all ?_ p rfl)
      simp only [List.length_singleton]
      omega
  · rintro ⟨rfl, hlast⟩
    refine ⟨List.cons_ne_nil t [], by simp, rfl, by simp, ?_⟩
    rintro hlt q ⟨⟩
    rcases hlast with rfl | hlast
    · simp at hlt
    · exact hlast

/-- The first of several pieces is cut off, and the others are a segmentation of the rest. -/
theorem segmentation_cons_cons_iff {p q : List Char} {ps : List (List Char)} :
    Segmentation sep (n + 1) t (p :: q :: ps) ↔
      StartsNowhere sep p sep ∧
        ∃ rest, t = p ++ (sep ++ rest) ∧ Segmentation sep n rest (q :: ps) := by
  constructor
  · intro h
    refine ⟨h.cut_first p (by simp), join sep (q :: ps), ?_, ?_⟩
    · rw [h.text, join, List.append_assoc]
    · refine ⟨List.cons_ne_nil q ps, ?_, rfl, ?_, ?_⟩
      · simpa using h.length_le
      · intro r hr
        exact h.cut_first r (List.mem_cons_of_mem p hr)
      · intro hlt r hr
        exact h.cut_all (by simpa using hlt) r (by simpa using hr)
  · rintro ⟨hfirst, rest, htext, h⟩
    refine ⟨List.cons_ne_nil p _, ?_, ?_, ?_, ?_⟩
    · simpa using h.length_le
    · rw [htext, h.text, join, List.append_assoc]
    · intro r hr
      rcases List.mem_cons.1 hr with rfl | hr
      · exact hfirst
      · exact h.cut_first r hr
    · intro hlt r hr
      exact h.cut_all (by simpa using hlt) r (by simpa using hr)

/-! ## The only segmentation -/

theorem cut_ne_nil (n : Nat) (t : List Char) : cut sep (n + 1) t ≠ [] := by
  cases n with
  | zero => simp [cut]
  | succ n =>
      rw [cut]
      split <;> simp

theorem segmentation_cut (n : Nat) (t : List Char) :
    Segmentation sep (n + 1) t (cut sep (n + 1) t) := by
  induction n generalizing t with
  | zero => exact segmentation_singleton_iff.2 ⟨rfl, .inl rfl⟩
  | succ n ih =>
      rw [cut]
      cases hfirst : splitFirst sep t with
      | none => exact segmentation_singleton_iff.2 ⟨rfl, .inr (splitFirst_eq_none_iff.1 hfirst)⟩
      | some found =>
          obtain ⟨before, rest⟩ := found
          obtain ⟨htext, hstart⟩ := startsNowhere_of_splitFirst hfirst
          have hrest := ih rest
          simp only
          -- what is left has a first piece of its own, so there are at least two pieces
          cases hcut : cut sep (n + 1) rest with
          | nil => exact absurd hcut (cut_ne_nil n rest)
          | cons q qs =>
              rw [hcut] at hrest
              exact segmentation_cons_cons_iff.2
                ⟨startsNowhere_append_iff.1 hstart, rest, htext, hrest⟩

theorem Segmentation.eq_cut {ps : List (List Char)} (h : Segmentation sep (n + 1) t ps) :
    ps = cut sep (n + 1) t := by
  -- the induction is on the number of pieces that are still allowed
  induction n generalizing t ps with
  | zero =>
      obtain ⟨p, rfl⟩ : ∃ p, ps = [p] := by
        have hlength := h.length_le
        have hpos := List.length_pos_iff.2 h.ne_nil
        exact List.length_eq_one_iff.1 (by omega)
      rw [cut, (segmentation_singleton_iff.1 h).1]
  | succ n ih =>
      cases ps with
      | nil => exact absurd rfl h.ne_nil
      | cons p ps =>
          cases ps with
          | nil =>
              obtain ⟨rfl, hlast⟩ := segmentation_singleton_iff.1 h
              have hnone := splitFirst_eq_none_iff.2 (hlast.resolve_left (Nat.succ_ne_zero n))
              simp only [cut, hnone]
          | cons q ps =>
              obtain ⟨hfirst, rest, rfl, hrest⟩ := segmentation_cons_cons_iff.1 h
              have hstart : StartsNowhere sep p (sep ++ rest) := startsNowhere_append_iff.2 hfirst
              simp only [cut, splitFirst_append hstart, ← ih hrest]

end Text
end FormTemplate
