import Mathlib.Data.List.Infix
import FormTemplate.Placeholder
import FormTemplate.Proofs.Text.Trim

/-!
# Cutting — the pieces of a text and the separators between them

* `contains_iff` — a text is found in another one where it stands in it;
* `StartsNowhere` — no occurrence of a text starts in a part of another one;
* `splitFirst_append`, `startsNowhere_of_splitFirst` — a text is cut at the first occurrence of the
  separator;
* `splitFirst_eq_none_iff` — it is not cut where there is none;
* `isPrefix_headD_cut`, `not_isInfix_headD_cut` — the first piece begins the text and has no
  separator;
* `splitFirst_char_eq_some_iff`, `splitOnChar_of_not_mem` — the same for separators of one
  character;
* `splitOnChar_join`, `join_splitOnChar` — joining pieces undoes cutting, and cutting undoes joining
  where no piece has the separator;
* `join_cons`, `join_append`, `join_flatMap` — what is joined to the first piece, joining two rows of
  pieces, and joining what was joined;
* `commaList_append`, `commaList_padded` — lists between commas: a comma more joins two lists, and
  blanks around a list make no difference.
-/

namespace FormTemplate
namespace Text

/-! ## Literals -/

@[simp]
theorem dropPrefix?_append (l t : List Char) : dropPrefix? l (l ++ t) = some t := by
  induction l with
  | nil => rfl
  | cons a l ih => simpa [dropPrefix?] using ih

theorem dropPrefix?_eq_none_iff {l t : List Char} : dropPrefix? l t = none ↔ ¬ l <+: t := by
  constructor
  · rintro hnone ⟨rest, rfl⟩
    simp at hnone
  · intro hno
    cases hdrop : dropPrefix? l t with
    | none => rfl
    | some rest => exact absurd ⟨rest, (dropPrefix?_eq_some hdrop).symm⟩ hno

theorem startsWith_iff {l t : List Char} : startsWith l t = true ↔ l <+: t := by
  rw [← Decidable.not_iff_not, ← dropPrefix?_eq_none_iff, startsWith]
  cases dropPrefix? l t <;> simp

theorem contains_iff {l t : List Char} : contains l t = true ↔ l <:+: t := by
  induction t with
  | nil => rw [contains, startsWith_iff, List.infix_nil, List.prefix_nil]
  | cons c t ih => rw [contains, Bool.or_eq_true, startsWith_iff, ih, List.infix_cons_iff]

/-- No occurrence of `l` starts in `s` when `t` follows. -/
def StartsNowhere (l s t : List Char) : Prop :=
  ∀ x y, s = x ++ y → y ≠ [] → ¬ l <+: y ++ t

theorem startsNowhere_nil (l t : List Char) : StartsNowhere l [] t := by
  intro x y hs hy
  exact absurd (List.append_eq_nil_iff.1 hs.symm).2 hy

theorem startsNowhere_cons {l s t : List Char} {c : Char} :
    StartsNowhere l (c :: s) t ↔ ¬ l <+: c :: (s ++ t) ∧ StartsNowhere l s t := by
  constructor
  · intro h
    refine ⟨h [] (c :: s) rfl (List.cons_ne_nil c s), ?_⟩
    intro x y hs hy
    exact h (c :: x) y (by rw [hs, List.cons_append]) hy
  · rintro ⟨hhead, htail⟩ x y hs hy
    -- an occurrence starts at the first character or behind it
    cases x with
    | nil =>
        have hy' : c :: s = y := hs
        exact hy' ▸ hhead
    | cons e x => exact htail x y (List.cons.inj hs).2 hy

theorem StartsNowhere.not_isInfix {l s t : List Char} (h : StartsNowhere l s t) (hl : l ≠ []) :
    ¬ l <:+: s := by
  rintro ⟨x, y, hs⟩
  refine h x (l ++ y) (by rw [← hs, List.append_assoc]) (by simp [hl]) ?_
  exact ⟨y ++ t, (List.append_assoc l y t).symm⟩

/-- A single character starts nowhere in a text that does not have it. -/
theorem startsNowhere_singleton {c : Char} {s : List Char} (hc : c ∉ s) (t : List Char) :
    StartsNowhere [c] s t := by
  intro x y hs hy hstart
  cases y with
  | nil => exact hy rfl
  | cons e y =>
      have hce : c = e := by
        simpa using hstart
      exact hc (by simp [hs, hce])

/-! ## The first separator -/

theorem splitFirst_append {sep before rest : List Char}
    (h : StartsNowhere sep before (sep ++ rest)) :
    splitFirst sep (before ++ (sep ++ rest)) = some (before, rest) := by
  induction before with
  | nil =>
      have hdrop := dropPrefix?_append sep rest
      -- `splitFirst` takes the text apart, not the separator
      cases htext : sep ++ rest with
      | nil =>
          rw [htext] at hdrop
          simp [splitFirst, hdrop]
      | cons c t =>
          rw [htext] at hdrop
          simp [splitFirst, hdrop]
  | cons c before ih =>
      rcases startsNowhere_cons.1 h with ⟨hhead, htail⟩
      have hdrop := dropPrefix?_eq_none_iff.2 hhead
      simp [splitFirst, hdrop, ih htail]

theorem startsNowhere_of_splitFirst {sep t before rest : List Char}
    (h : splitFirst sep t = some (before, rest)) :
    t = before ++ (sep ++ rest) ∧ StartsNowhere sep before (sep ++ rest) := by
  induction t generalizing before with
  | nil =>
      rcases Option.map_eq_some_iff.1 h with ⟨r, hr, he⟩
      cases he
      have htext := dropPrefix?_eq_some hr
      exact ⟨htext, startsNowhere_nil _ _⟩
  | cons c t ih =>
      rw [splitFirst] at h
      cases hdrop : dropPrefix? sep (c :: t) with
      | some r =>
          rw [hdrop] at h
          cases h
          have htext := dropPrefix?_eq_some hdrop
          exact ⟨htext, startsNowhere_nil _ _⟩
      | none =>
          rw [hdrop] at h
          rcases Option.map_eq_some_iff.1 h with ⟨⟨b, r⟩, hfirst, he⟩
          cases he
          rcases ih hfirst with ⟨htext, hstart⟩
          have hhead := dropPrefix?_eq_none_iff.1 hdrop
          rw [htext] at hhead
          exact ⟨by rw [htext, List.cons_append], startsNowhere_cons.2 ⟨hhead, hstart⟩⟩

theorem splitFirst_eq_none_iff {sep t : List Char} : splitFirst sep t = none ↔ ¬ sep <:+: t := by
  induction t with
  | nil => simp [splitFirst, dropPrefix?_eq_none_iff]
  | cons c t ih =>
      rw [splitFirst, List.infix_cons_iff, not_or, ← dropPrefix?_eq_none_iff, ← ih]
      cases hdrop : dropPrefix? sep (c :: t) with
      | some r => simp
      | none => simp

theorem splitFirst_of_not_mem {c : Char} {before : List Char} (hc : c ∉ before)
    (rest : List Char) : splitFirst [c] (before ++ c :: rest) = some (before, rest) :=
  splitFirst_append (startsNowhere_singleton hc _)

theorem splitFirst_char_eq_none_iff {c : Char} {t : List Char} :
    splitFirst [c] t = none ↔ c ∉ t := by
  rw [splitFirst_eq_none_iff, List.singleton_infix_iff]

theorem splitFirst_char_eq_some_iff {c : Char} {t before rest : List Char} :
    splitFirst [c] t = some (before, rest) ↔ t = before ++ c :: rest ∧ c ∉ before := by
  constructor
  · intro h
    obtain ⟨htext, hstart⟩ := startsNowhere_of_splitFirst h
    refine ⟨htext, ?_⟩
    rw [← List.singleton_infix_iff]
    exact hstart.not_isInfix (List.cons_ne_nil c [])
  · rintro ⟨rfl, hc⟩
    exact splitFirst_of_not_mem hc rest

/-! ## Pieces -/

section Pieces

variable {sep : List Char}

theorem pieces_of_ne_nil (hsep : sep ≠ []) (n : Nat) (t : List Char) :
    pieces n sep t = cut sep n t := by
  cases sep with
  | nil => exact absurd rfl hsep
  | cons a l => cases n <;> simp [pieces, cut]

theorem isPrefix_headD_cut (n : Nat) (t : List Char) : (cut sep (n + 2) t).headD [] <+: t := by
  rw [cut]
  cases hfirst : splitFirst sep t with
  | none => exact List.prefix_refl t
  | some found =>
      rw [(startsNowhere_of_splitFirst hfirst).1]
      exact List.prefix_append _ _

theorem not_isInfix_headD_cut (hsep : sep ≠ []) (n : Nat) (t : List Char) :
    ¬ sep <:+: (cut sep (n + 2) t).headD [] := by
  rw [cut]
  cases hfirst : splitFirst sep t with
  | none => exact splitFirst_eq_none_iff.1 hfirst
  | some found => exact (startsNowhere_of_splitFirst hfirst).2.not_isInfix hsep

end Pieces

/-! ## All pieces -/

theorem splitOnChar_of_not_mem {c : Char} {t : List Char} (hc : c ∉ t) :
    splitOnChar c t = [t] := by
  induction t with
  | nil => rfl
  | cons e t ih =>
      have he : c ≠ e ∧ c ∉ t := by
        simpa using hc
      rw [splitOnChar, ih he.2]
      simp [Ne.symm he.1]

theorem splitOnChar_ne_nil (c : Char) (t : List Char) : splitOnChar c t ≠ [] := by
  cases t with
  | nil => simp [splitOnChar]
  | cons e t =>
      rw [splitOnChar]
      split
      · simp
      · split <;> simp

theorem splitOnChar_append (c : Char) (s t : List Char) :
    splitOnChar c (s ++ c :: t) = splitOnChar c s ++ splitOnChar c t := by
  induction s with
  | nil =>
      rw [List.nil_append, splitOnChar]
      cases ht : splitOnChar c t with
      | nil => exact absurd ht (splitOnChar_ne_nil c t)
      | cons p ps => simp [splitOnChar, ht]
  | cons e s ih =>
      rw [List.cons_append, splitOnChar, ih, splitOnChar]
      cases hs : splitOnChar c s with
      | nil => exact absurd hs (splitOnChar_ne_nil c s)
      | cons p ps => by_cases he : e = c <;> simp [he]

theorem notMem_of_mem_splitOnChar {c : Char} {t p : List Char} (h : p ∈ splitOnChar c t) :
    c ∉ p := by
  induction t generalizing p with
  | nil => simp_all [splitOnChar]
  | cons e t ih =>
      rw [splitOnChar] at h
      cases ht : splitOnChar c t with
      | nil => exact absurd ht (splitOnChar_ne_nil c t)
      | cons q qs =>
          rw [ht] at h ih
          by_cases he : e = c
          · simp only [he, if_true, List.mem_cons] at h
            rcases h with rfl | h
            · simp
            · exact ih (List.mem_cons.2 h)
          · simp only [he, if_false, List.mem_cons] at h
            rcases h with rfl | h
            · have hq : c ∉ q := ih List.mem_cons_self
              simp [hq, Ne.symm he]
            · exact ih (List.mem_cons_of_mem q h)

/-- Pieces without the separator are the pieces of what they are joined to. -/
theorem splitOnChar_join {c : Char} {ps : List (List Char)} (hne : ps ≠ [])
    (h : ∀ p ∈ ps, c ∉ p) : splitOnChar c (join [c] ps) = ps := by
  induction ps with
  | nil => exact absurd rfl hne
  | cons p ps ih =>
      have hp := splitOnChar_of_not_mem (h p List.mem_cons_self)
      cases ps with
      | nil => exact hp
      | cons q qs =>
          have hrest := ih (List.cons_ne_nil q qs) fun r hr => h r (List.mem_cons_of_mem p hr)
          rw [join, List.append_assoc, List.singleton_append, splitOnChar_append, hp, hrest]
          rfl

theorem join_splitOnChar (c : Char) (t : List Char) : join [c] (splitOnChar c t) = t := by
  induction t with
  | nil => rfl
  | cons e t ih =>
      rw [splitOnChar]
      cases ht : splitOnChar c t with
      | nil => exact absurd ht (splitOnChar_ne_nil c t)
      | cons p ps =>
          rw [ht] at ih
          by_cases he : e = c
          · simp [he, join, ih]
          · cases ps <;> simp_all [join]

/-- A character of joined pieces is one of a separator or of a piece. -/
theorem mem_join {c : Char} {sep : List Char} {ps : List (List Char)} (h : c ∈ join sep ps) :
    c ∈ sep ∨ ∃ p ∈ ps, c ∈ p := by
  induction ps with
  | nil => cases h
  | cons p ps ih =>
      cases ps with
      | nil => exact .inr ⟨p, List.mem_cons_self, h⟩
      | cons q ps =>
          rw [join, List.mem_append, List.mem_append] at h
          rcases h with (hp | hsep) | hrest
          · exact .inr ⟨p, List.mem_cons_self, hp⟩
          · exact .inl hsep
          · obtain h | ⟨r, hr, hcr⟩ := ih hrest
            · exact .inl h
            · exact .inr ⟨r, List.mem_cons_of_mem p hr, hcr⟩

theorem join_isPrefix (sep : List Char) {ps qs : List (List Char)} (h : ps <+: qs) :
    join sep ps <+: join sep qs := by
  induction ps generalizing qs with
  | nil => exact List.nil_prefix
  | cons p ps ih =>
      obtain ⟨rest, rfl⟩ := h
      cases ps with
      | nil => cases rest <;> simp [join]
      | cons q ps =>
          have hrest := ih (List.prefix_append (q :: ps) rest)
          simpa [join, List.prefix_append_right_inj] using hrest

theorem join_cons (sep p : List Char) (ps : List (List Char)) :
    join sep (p :: ps) = p ++ ps.flatMap fun q => sep ++ q := by
  induction ps generalizing p with
  | nil => simp [join]
  | cons q ps ih => rw [join, ih q, List.flatMap_cons, List.append_assoc, List.append_assoc]

theorem join_append (sep : List Char) {ps qs : List (List Char)} (hps : ps ≠ []) (hqs : qs ≠ []) :
    join sep (ps ++ qs) = join sep ps ++ sep ++ join sep qs := by
  cases ps with
  | nil => exact absurd rfl hps
  | cons p ps =>
      cases qs with
      | nil => exact absurd rfl hqs
      | cons q qs => simp [join_cons]

/-- Joining twice is joining once, if none of the rows that are joined first is empty. -/
theorem join_flatMap {α : Type} (sep : List Char) {f : α → List (List Char)} {as : List α}
    (h : ∀ a ∈ as, f a ≠ []) :
    join sep (as.map fun a => join sep (f a)) = join sep (as.flatMap f) := by
  induction as with
  | nil => rfl
  | cons a as ih =>
      have hfirst := h a List.mem_cons_self
      cases as with
      | nil => simp [join]
      | cons b as =>
          have hrest := ih fun e he => h e (List.mem_cons_of_mem a he)
          have hne : (b :: as).flatMap f ≠ [] := by
            simp [h b (List.mem_cons_of_mem a List.mem_cons_self)]
          rw [List.flatMap_cons, join_append sep hfirst hne, ← hrest]
          rfl

/-! ## Lists between commas -/

theorem comma_notMem_of_allBlank {t : List Char} (h : allBlank t = true) : ',' ∉ t := by
  intro hmem
  have hcomma := List.all_eq_true.1 h ',' hmem
  revert hcomma
  decide

theorem commaList_of_notMem {t : List Char} (h : ',' ∉ t) :
    commaList t = [trim t].filter fun p => !p.isEmpty := by
  rw [commaList, splitOnChar_of_not_mem h, List.map_singleton]

theorem commaList_append (s t : List Char) :
    commaList (s ++ ',' :: t) = commaList s ++ commaList t := by
  rw [commaList, splitOnChar_append, List.map_append, List.filter_append, commaList, commaList]

theorem commaList_padded {before t after : List Char} (hbefore : allBlank before = true)
    (hafter : allBlank after = true) : commaList (before ++ t ++ after) = commaList t := by
  by_cases ht : ',' ∈ t
  · -- the blanks in front belong to the first token, those at the end to the rest
    obtain ⟨x, y, rfl, -⟩ := List.eq_append_cons_of_mem ht
    have hfirst : commaList (before ++ x ++ []) = commaList x := commaList_padded hbefore rfl
    have hrest : commaList ([] ++ y ++ after) = commaList y := commaList_padded rfl hafter
    calc
      commaList (before ++ (x ++ ',' :: y) ++ after)
          = commaList ((before ++ x ++ []) ++ ',' :: ([] ++ y ++ after)) := by simp
      _ = commaList x ++ commaList y := by rw [commaList_append, hfirst, hrest]
      _ = commaList (x ++ ',' :: y) := (commaList_append x y).symm
  · have hno : ',' ∉ before ++ t ++ after := by
      simp [ht, comma_notMem_of_allBlank hbefore, comma_notMem_of_allBlank hafter]
    rw [commaList_of_notMem hno, commaList_of_notMem ht, trim_padded hbefore hafter]
termination_by t.length
decreasing_by
  all_goals
    subst_vars
    simp only [List.length_append, List.length_cons]
    omega

end Text
end FormTemplate
