import Mathlib.Data.List.DropRight
import FormTemplate.Text.Blank

/-!
# Trim — the ends of a trimmed text

Trimming takes the blanks off both ends of a text and nothing else.

* `Trimmed` — a text with no blank at either end;
* `trimmed_trim`, `Trimmed.trim_eq` — a text is trimmed after trimming, and one that is trimmed
  stays as it is;
* `isInfix_trim`, `exists_trim` — what is left stands in the text as it did before, between blanks;
* `allBlank_eq_false_of_mem`, `Trimmed.allBlank_eq_false` — one character that is no blank is enough,
  so what is left is not blank, if anything is;
* `trim_eq_nil_iff`, `trim_padded` — nothing is left of blanks, be they alone or around a text.
-/

namespace FormTemplate
namespace Text

/-- No blank stands at either end of the text. -/
structure Trimmed (t : List Char) : Prop where
  head : ∀ c ∈ t.head?, isBlank c = false
  last : ∀ c ∈ t.getLast?, isBlank c = false

theorem Trimmed.getLast_nonblank {t : List Char} (h : Trimmed t) (hne : t ≠ []) :
    isBlank (t.getLast hne) = false :=
  h.last _ (List.getLast?_eq_some_getLast hne)

theorem Trimmed.of_nonblank {t : List Char} (h : ∀ c ∈ t, isBlank c = false) : Trimmed t :=
  ⟨fun c hc => h c (List.mem_of_mem_head? hc), fun c hc => h c (List.mem_of_mem_getLast? hc)⟩

/-! ## The ends of a text -/

theorem trimEnd_concat (t : List Char) (c : Char) :
    trimEnd (t ++ [c]) = if isBlank c then trimEnd t else t ++ [c] := by
  induction t with
  | nil => rfl
  | cons e t ih =>
      rw [List.cons_append, trimEnd, ih]
      by_cases hc : isBlank c
      · simp only [hc, if_true]
        rfl
      · cases t <;> simp [hc]

theorem trimEnd_eq_rdropWhile (t : List Char) : trimEnd t = t.rdropWhile isBlank := by
  induction t using List.reverseRecOn with
  | nil => rfl
  | append_singleton t c ih => rw [trimEnd_concat, List.rdropWhile_concat, ih]

theorem trimEnd_cons_of_nonblank {c : Char} (hc : isBlank c = false) (t : List Char) :
    trimEnd (c :: t) = c :: trimEnd t := by
  rw [trimEnd]
  cases trimEnd t <;> simp [hc]

/-- The first character that is left is not a blank. -/
theorem isBlank_of_trimStart {t s : List Char} {c : Char} (h : trimStart t = c :: s) :
    isBlank c = false := by
  have hne : t.dropWhile isBlank ≠ [] := by
    rw [← trimStart, h]
    exact List.cons_ne_nil c s
  have hhead := List.head_dropWhile_not isBlank hne
  simp only [← trimStart.eq_def, h] at hhead
  exact hhead

/-! ## Trimmed texts -/

theorem Trimmed.trim_eq {t : List Char} (h : Trimmed t) : trim t = t := by
  have hstart : trimStart t = t := by
    cases t with
    | nil => rfl
    | cons c t => simp [trimStart, h.head c rfl]
  have hend : trimEnd t = t := by
    rw [trimEnd_eq_rdropWhile, List.rdropWhile_eq_self_iff]
    intro hne
    simp [h.getLast_nonblank hne]
  rw [trim, hstart, hend]

theorem trimmed_trim (t : List Char) : Trimmed (trim t) := by
  constructor
  · cases hs : trimStart t with
    | nil => simp [trim, hs, trimEnd]
    | cons e s =>
        have he := isBlank_of_trimStart hs
        intro c hc
        have hec : e = c := by
          simpa [trim, hs, trimEnd_cons_of_nonblank he] using hc
        exact hec ▸ he
  · intro c hc
    rw [trim, trimEnd_eq_rdropWhile] at hc
    rcases List.mem_getLast?_eq_getLast hc with ⟨hne, rfl⟩
    simpa using List.rdropWhile_last_not isBlank _ hne

theorem isInfix_trim (t : List Char) : trim t <:+: t := by
  have hend : trim t <+: trimStart t := by
    rw [trim, trimEnd_eq_rdropWhile]
    exact List.rdropWhile_prefix isBlank _
  exact hend.isInfix.trans (List.dropWhile_suffix isBlank).isInfix

/-- What trimming takes off is blank. -/
theorem exists_trim (t : List Char) :
    ∃ before after, allBlank before = true ∧ allBlank after = true ∧
      t = before ++ trim t ++ after := by
  refine ⟨t.takeWhile isBlank, (trimStart t).rtakeWhile isBlank, List.all_takeWhile, ?_, ?_⟩
  · exact List.all_eq_true.2 fun c hc => List.mem_rtakeWhile_imp hc
  · rw [List.append_assoc, trim, trimEnd_eq_rdropWhile, List.rdropWhile_append_rtakeWhile,
      trimStart, List.takeWhile_append_dropWhile]

theorem allBlank_eq_false_of_mem {t : List Char} {c : Char} (hc : c ∈ t)
    (hblank : isBlank c = false) : allBlank t = false :=
  List.all_eq_false.2 ⟨c, hc, by simp [hblank]⟩

theorem Trimmed.allBlank_eq_false {t : List Char} (h : Trimmed t) (hne : t ≠ []) :
    allBlank t = false := by
  cases t with
  | nil => exact absurd rfl hne
  | cons c t => exact allBlank_eq_false_of_mem List.mem_cons_self (h.head c rfl)

/-! ## Blanks -/

theorem trim_of_allBlank {t : List Char} (h : allBlank t = true) : trim t = [] := by
  have hstart : trimStart t = [] := by
    rw [trimStart, List.dropWhile_eq_nil_iff]
    exact List.all_eq_true.1 h
  rw [trim, hstart, trimEnd]

theorem trim_eq_nil_iff {t : List Char} : trim t = [] ↔ allBlank t = true := by
  constructor
  · intro hnil
    cases hdrop : trimStart t with
    | nil => exact List.all_eq_true.2 (List.dropWhile_eq_nil_iff.1 hdrop)
    | cons c s =>
        -- what is left at the front stays at the end as well
        rw [trim, hdrop, trimEnd_cons_of_nonblank (isBlank_of_trimStart hdrop)] at hnil
        cases hnil
  · exact trim_of_allBlank

theorem isEmpty_trim (t : List Char) : (trim t).isEmpty = allBlank t := by
  rw [Bool.eq_iff_iff, List.isEmpty_iff, trim_eq_nil_iff]

theorem trimEnd_append_of_allBlank {t after : List Char} (hafter : allBlank after = true) :
    trimEnd (t ++ after) = trimEnd t := by
  -- the last blank goes first
  induction after using List.reverseRecOn with
  | nil => rw [List.append_nil]
  | append_singleton after c ih =>
      have hblank : allBlank after = true ∧ isBlank c = true := by
        simpa [allBlank] using hafter
      calc
        trimEnd (t ++ (after ++ [c])) = trimEnd (t ++ after ++ [c]) := by
          rw [List.append_assoc]
        _ = trimEnd (t ++ after) := by
          rw [trimEnd_concat, if_pos hblank.2]
        _ = trimEnd t := ih hblank.1

theorem trim_padded {before t after : List Char} (hbefore : allBlank before = true)
    (hafter : allBlank after = true) : trim (before ++ t ++ after) = trim t := by
  have hstart : trimStart (before ++ (t ++ after)) = trimStart (t ++ after) :=
    List.dropWhile_append_of_pos (List.all_eq_true.1 hbefore)
  rw [List.append_assoc, trim, hstart, trim]
  cases hdrop : trimStart t with
  | nil =>
      -- the text is blank itself, so that nothing is left of it with the blanks behind it
      have hblank : allBlank (t ++ after) = true := by
        simp only [allBlank, List.all_append, Bool.and_eq_true]
        exact ⟨List.all_eq_true.2 (List.dropWhile_eq_nil_iff.1 hdrop), hafter⟩
      exact trim_of_allBlank hblank
  | cons c s =>
      have happend : trimStart (t ++ after) = trimStart t ++ after := by
        rw [trimStart, List.dropWhile_append, ← trimStart, hdrop]
        rfl
      rw [happend, trimEnd_append_of_allBlank hafter, hdrop]

end Text
end FormTemplate
