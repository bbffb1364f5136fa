import FormTemplate.Proofs.Unicode.Letters

/-!
# Lowercase — how much of a lowercase form depends on what stands around it

Every character but one has the same lowercase form wherever it stands.  The capital sigma is the
exception: at the end of a word, behind a cased letter and before none, it becomes a final sigma.  So
the lowercase form of a part of a text need not be a part of the lowercase form of the text.

* `lowercase_map_toLower` — the case of ASCII letters is nowhere read;
* `firstCased?` — what one side of a sigma says about it, if it says anything;
* `lowercaseWithin`, `lowercase_append` — a part of a text in lowercase, and the whole from its parts;
* `sigmasSettled`, `lowercaseWithin_of_settled` — a part that settles its sigmas itself has one
  lowercase form;
* `exists_unsettled_context` — any other part has one that is not found in all texts with the part.
-/

namespace FormTemplate
namespace Unicode

/-! ## The case of ASCII letters -/

theorem toNat_toLower (c : Char) :
    c.toLower.toNat = if 0x41 ≤ c.toNat ∧ c.toNat ≤ 0x5A then c.toNat + 32 else c.toNat := by
  unfold Char.toLower
  simp only [ge_iff_le, UInt32.le_iff_toNat_le, Char.reduceVal, UInt32.reduceToNat, Char.toNat]
  split
  case isTrue =>
    simp only [UInt32.toNat_add, UInt32.toNat_sub, UInt32.reduceToNat]
    omega
  case isFalse => rfl

theorem toNat_toUpper (c : Char) :
    c.toUpper.toNat = if 0x61 ≤ c.toNat ∧ c.toNat ≤ 0x7A then c.toNat - 32 else c.toNat := by
  unfold Char.toUpper
  simp only [UInt32.le_iff_toNat_le, Char.reduceVal, UInt32.reduceToNat, Char.toNat]
  split
  case isTrue =>
    simp only [UInt32.toNat_add, UInt32.toNat_sub, UInt32.reduceToNat]
    omega
  case isFalse => rfl

/-- Only a capital letter is changed. -/
theorem toLower_cases (c : Char) :
    c.toLower = c ∨ 0x41 ≤ c.toNat ∧ c.toNat ≤ 0x5A ∧ c.toLower.toNat = c.toNat + 32 := by
  have hlower := toNat_toLower c
  split at hlower
  case isTrue hcapital => exact .inr ⟨hcapital.1, hcapital.2, hlower⟩
  case isFalse => exact .inl (Char.toNat_inj.1 hlower)

/-- A change of case is one between letters. -/
theorem letters_of_toLower_ne {c : Char} (h : c.toLower ≠ c) :
    Covers letterRanges c.toNat ∧ Covers letterRanges c.toLower.toNat := by
  obtain ⟨hlo, hhi, hlower⟩ := (toLower_cases c).resolve_left h
  simp only [letterRanges, covers_cons, covers_nil, hlower]
  omega

theorem casedSet_toLower (c : Char) : casedSet.mem c.toLower = casedSet.mem c := by
  by_cases hc : c.toLower = c
  · rw [hc]
  · obtain ⟨hletter, hlower⟩ := letters_of_toLower_ne hc
    rw [casedSet_of_letter hletter, casedSet_of_letter hlower]

theorem caseIgnorableSet_toLower (c : Char) :
    caseIgnorableSet.mem c.toLower = caseIgnorableSet.mem c := by
  by_cases hc : c.toLower = c
  · rw [hc]
  · obtain ⟨hletter, hlower⟩ := letters_of_toLower_ne hc
    rw [caseIgnorableSet_of_letter hletter, caseIgnorableSet_of_letter hlower]

theorem startsCased_map_toLower (t : List Char) :
    startsCased (t.map Char.toLower) = startsCased t := by
  induction t with
  | nil => rfl
  | cons c t ih =>
      rw [List.map_cons, startsCased, startsCased, caseIgnorableSet_toLower, casedSet_toLower, ih]

theorem toLower_toLower (c : Char) : toLower c.toLower = toLower c := by
  rcases toLower_cases c with heq | ⟨hlo, hhi, hlower⟩
  · rw [heq]
  · have hascii : c.toNat < 0x80 ∧ c.toLower.toNat < 0x80 := by
      omega
    have hsmall : c.toLower.toLower = c.toLower := by
      rw [← Char.toNat_inj, toNat_toLower, if_neg (by omega)]
    rw [toLower, toLower, if_pos hascii.1, if_pos hascii.2, hsmall]

theorem toLower_eq_capitalSigma_iff {c : Char} : c.toLower = capitalSigma ↔ c = capitalSigma := by
  rcases toLower_cases c with heq | ⟨hlo, hhi, hlower⟩
  · rw [heq]
  · have hsigma : capitalSigma.toNat = 0x3A3 := by
      decide
    constructor
    · intro h
      rw [h] at hlower
      omega
    · intro h
      rw [h] at hhi
      omega

theorem lowercaseAfter_map_toLower (before t : List Char) :
    lowercaseAfter (before.map Char.toLower) (t.map Char.toLower) = lowercaseAfter before t := by
  induction t generalizing before with
  | nil => rfl
  | cons c t ih =>
      -- what stands before a sigma is read through the two sets, which do not tell the cases apart
      have hrest := ih (c :: before)
      rw [List.map_cons] at hrest
      rw [List.map_cons, lowercaseAfter, lowercaseAfter, hrest]
      simp only [toLower_eq_capitalSigma_iff, startsCased_map_toLower, toLower_toLower]

/-- A text in lowercase is the same if its ASCII letters were in lowercase before. -/
theorem lowercase_map_toLower (t : List Char) : lowercase (t.map Char.toLower) = lowercase t :=
  lowercaseAfter_map_toLower [] t

/-! ## Sigmas and what stands around them -/

/-- Whether the first character that case does not ignore is a cased letter, if there is one. -/
def firstCased? : List Char → Option Bool
  | [] => none
  | c :: t => if caseIgnorableSet.mem c then firstCased? t else some (casedSet.mem c)

theorem firstCased?_of_letter {c : Char} (h : Covers letterRanges c.toNat) (t : List Char) :
    firstCased? (c :: t) = some true := by
  simp [firstCased?, casedSet_of_letter h, caseIgnorableSet_of_letter h]

theorem startsCased_eq (t : List Char) : startsCased t = (firstCased? t).getD false := by
  induction t with
  | nil => rfl
  | cons c t ih =>
      rw [startsCased, firstCased?, ih]
      split
      case isTrue => rfl
      case isFalse => rw [Option.getD_some]

theorem firstCased?_append (s t : List Char) :
    firstCased? (s ++ t) = (firstCased? s).or (firstCased? t) := by
  induction s with
  | nil => rfl
  | cons c s ih =>
      rw [List.cons_append, firstCased?, firstCased?, ih]
      split
      case isTrue => rfl
      case isFalse => rw [Option.some_or]

/-- What a capital sigma becomes between a text before it, nearest character first, and one after it. -/
def sigmaForm (before after : List Char) : Char :=
  if startsCased before && !startsCased after then finalSigma else smallSigma

/-- The lowercase form of a part of a text, between what precedes it, nearest character first, and
what follows it. -/
def lowercaseWithin (before after : List Char) : List Char → List Char
  | [] => []
  | c :: t =>
    (if c = capitalSigma then [sigmaForm before (t ++ after)] else toLower c) ++
      lowercaseWithin (c :: before) after t

theorem lowercaseWithin_append (before after s t : List Char) :
    lowercaseWithin before after (s ++ t) =
      lowercaseWithin before (t ++ after) s ++ lowercaseWithin (s.reverse ++ before) after t := by
  induction s generalizing before with
  | nil => rfl
  | cons c s ih =>
      rw [List.cons_append, lowercaseWithin, ih, lowercaseWithin, List.reverse_cons]
      simp only [List.append_assoc, List.singleton_append]

theorem lowercaseAfter_eq (before t : List Char) :
    lowercaseAfter before t = lowercaseWithin before [] t := by
  induction t generalizing before with
  | nil => rfl
  | cons c t ih =>
      rw [lowercaseAfter, lowercaseWithin, ih, List.append_nil, sigmaForm]
      by_cases hfinal : (startsCased before && !startsCased t) = true
      · simp only [hfinal, if_true]
      · simp only [hfinal, if_false, Bool.false_eq_true]

theorem lowercase_eq (t : List Char) : lowercase t = lowercaseWithin [] [] t :=
  lowercaseAfter_eq [] t

/-- A text in lowercase with a sigma in it. -/
theorem lowercase_sigma (s u : List Char) :
    lowercase (s ++ capitalSigma :: u) =
      lowercaseWithin [] (capitalSigma :: u) s ++
        sigmaForm s.reverse u :: lowercaseWithin (capitalSigma :: s.reverse) [] u := by
  rw [lowercase_eq, lowercaseWithin_append, lowercaseWithin, if_pos rfl]
  simp only [List.append_nil, List.singleton_append]

/-- A text in lowercase, from its three parts. -/
theorem lowercase_append (x t y : List Char) :
    lowercase (x ++ t ++ y) =
      lowercaseWithin [] (t ++ y) x ++ lowercaseWithin x.reverse y t ++
        lowercaseWithin (x ++ t).reverse [] y := by
  rw [lowercase_eq, lowercaseWithin_append, lowercaseWithin_append]
  simp only [List.append_nil]

/-! ## Settled sigmas -/

/-- Whether a sigma's form is known from what is known of the two sides of it: it is not final before
a cased letter or behind something else, and final behind a cased letter and before something else. -/
def settles : Option Bool → Option Bool → Bool
  | _, some true => true
  | some false, _ => true
  | some true, some false => true
  | _, _ => false

theorem settles_some_true (before : Option Bool) : settles before (some true) = true := by
  rcases before with _ | _ | _ <;> rfl

/-- The rest of a text settles each of its capital sigmas, with what precedes it in the text, nearest
character first. -/
def sigmasSettledAfter (before : List Char) : List Char → Bool
  | [] => true
  | c :: t =>
    (c != capitalSigma || settles (firstCased? before) (firstCased? t)) &&
      sigmasSettledAfter (c :: before) t

/-- The text itself settles each of its capital sigmas, whatever may stand around the text. -/
def sigmasSettled (t : List Char) : Bool :=
  sigmasSettledAfter [] t

theorem sigmasSettledAfter_of_notMem {t : List Char} (h : capitalSigma ∉ t) (before : List Char) :
    sigmasSettledAfter before t = true := by
  induction t generalizing before with
  | nil => rfl
  | cons c t ih =>
      obtain ⟨hc, ht⟩ := List.ne_and_not_mem_of_not_mem_cons h
      rw [sigmasSettledAfter, ih ht, Bool.and_true, Bool.or_eq_true, bne_iff_ne]
      exact .inl hc.symm

theorem sigmasSettled_of_notMem {t : List Char} (h : capitalSigma ∉ t) : sigmasSettled t = true :=
  sigmasSettledAfter_of_notMem h []

theorem sigmaForm_append_of_settles {before after : List Char}
    (h : settles (firstCased? before) (firstCased? after) = true) (x y : List Char) :
    sigmaForm (before ++ x) (after ++ y) = sigmaForm before after := by
  rw [sigmaForm, sigmaForm, startsCased_eq, startsCased_eq, startsCased_eq, startsCased_eq,
    firstCased?_append, firstCased?_append]
  rcases hbefore : firstCased? before with _ | _ | _ <;>
    rcases hafter : firstCased? after with _ | _ | _ <;>
      simp_all [settles]

theorem lowercaseWithin_of_settledAfter {before t : List Char}
    (h : sigmasSettledAfter before t = true) (x y : List Char) :
    lowercaseWithin (before ++ x) y t = lowercaseWithin before [] t := by
  induction t generalizing before with
  | nil => rfl
  | cons c t ih =>
      rw [sigmasSettledAfter, Bool.and_eq_true, Bool.or_eq_true, bne_iff_ne] at h
      obtain ⟨hsigma, hrest⟩ := h
      have hrest := ih hrest
      rw [List.cons_append] at hrest
      rw [lowercaseWithin, lowercaseWithin, hrest, List.append_nil]
      split
      case isTrue hc =>
        rw [sigmaForm_append_of_settles (hsigma.resolve_left (Classical.not_not.2 hc))]
      case isFalse => rfl

/-- So its lowercase form is the same wherever the text is. -/
theorem lowercaseWithin_of_settled {t : List Char} (h : sigmasSettled t = true) (x y : List Char) :
    lowercaseWithin x y t = lowercase t := by
  have hwithin := lowercaseWithin_of_settledAfter h x y
  rw [List.nil_append] at hwithin
  rw [hwithin, lowercase_eq]

/-! ## Unsettled sigmas -/

theorem exists_unsettled {before t : List Char} (h : sigmasSettledAfter before t = false) :
    ∃ s u, t = s ++ capitalSigma :: u ∧
      settles (firstCased? (s.reverse ++ before)) (firstCased? u) = false := by
  induction t generalizing before with
  | nil => cases h
  | cons c t ih =>
      rw [sigmasSettledAfter, Bool.and_eq_false_iff, Bool.or_eq_false_iff, bne_eq_false_iff_eq] at h
      rcases h with ⟨rfl, hsettles⟩ | hrest
      · exact ⟨[], t, rfl, hsettles⟩
      · obtain ⟨s, u, rfl, hsettles⟩ := ih hrest
        exact ⟨c :: s, u, rfl, by simpa using hsettles⟩

/-- The two small sigmas as one character. -/
def plainSigma (c : Char) : Char :=
  if c = finalSigma then smallSigma else c

theorem plainSigma_sigmaForm (before after : List Char) :
    plainSigma (sigmaForm before after) = smallSigma := by
  rw [sigmaForm]
  split <;> decide

/-- But for the two small sigmas, the surroundings of a text make no difference. -/
theorem map_plainSigma_congr (before before' after after' t : List Char) :
    (lowercaseWithin before after t).map plainSigma =
      (lowercaseWithin before' after' t).map plainSigma := by
  induction t generalizing before before' with
  | nil => rfl
  | cons c t ih =>
      rw [lowercaseWithin, lowercaseWithin, List.map_append, List.map_append,
        ih (c :: before) (c :: before')]
      split
      case isTrue =>
        simp only [List.map_cons, List.map_nil, plainSigma_sigmaForm]
      case isFalse => rfl

/-- A sigma takes one form in all surroundings in which the text with it has one lowercase form. -/
theorem sigmaForm_eq_of_lowercaseWithin {x y s u : List Char}
    (h : lowercaseWithin [] [] (s ++ capitalSigma :: u) =
      lowercaseWithin x y (s ++ capitalSigma :: u)) :
    sigmaForm s.reverse u = sigmaForm (s.reverse ++ x) (u ++ y) := by
  rw [lowercaseWithin_append, lowercaseWithin_append] at h
  -- what precedes the sigma is the same on both sides but for other sigmas, and so equally long
  have hlength := congrArg List.length
    (map_plainSigma_congr [] x (capitalSigma :: u ++ []) (capitalSigma :: u ++ y) s)
  rw [List.length_map, List.length_map] at hlength
  have htail := List.append_inj_right h hlength
  rw [lowercaseWithin, lowercaseWithin, if_pos rfl, if_pos rfl] at htail
  simpa using (List.cons.inj htail).1

/-- A letter on one side makes a sigma of another form, unless it is settled. -/
theorem exists_sigmaForm_ne {before after : List Char} {a : Char} (ha : firstCased? [a] = some true)
    (h : settles (firstCased? before) (firstCased? after) = false) :
    sigmaForm before after ≠ sigmaForm (before ++ [a]) after ∨
      sigmaForm before after ≠ sigmaForm before (after ++ [a]) := by
  have hforms : finalSigma ≠ smallSigma := by
    decide
  simp only [sigmaForm, startsCased_eq, firstCased?_append, ha]
  rcases hbefore : firstCased? before with _ | _ | _ <;>
    rcases hafter : firstCased? after with _ | _ | _ <;>
      simp_all [settles, hforms.symm]

/-! ## Other texts with the same part -/

section

variable {α : Type} {l l' : List α}

/-- Only a row of one element is moved by a step and stays what it is. -/
theorem eq_of_cons_eq_concat {a b : α} (h : a :: l = l ++ [b]) : b = a ∧ ∀ c ∈ l, c = a := by
  induction l generalizing a with
  | nil => simpa [eq_comm] using h
  | cons c l ih =>
      obtain ⟨rfl, hrest⟩ := List.cons.inj h
      obtain ⟨hb, hl⟩ := ih hrest
      exact ⟨hb, List.forall_mem_cons.2 ⟨rfl, hl⟩⟩

variable {β : Type} {f : α → β} {a : α}

/-- One element more in front does not bring back a list that was changed in a way that `f` does not
see. -/
theorem not_isInfix_cons (hmap : l.map f = l'.map f) (hne : l ≠ l') (hother : ∃ c ∈ l, f c ≠ f a) :
    ¬ l <:+: a :: l' := by
  have hlength : l.length = l'.length := by
    simpa using congrArg List.length hmap
  intro hfound
  rcases List.infix_cons_iff.1 hfound with ⟨rest, hrest⟩ | hfound
  · -- moved by one place, the list would be made of one element again and again
    have hone : rest.length = 1 := by
      have := congrArg List.length hrest
      simp only [List.length_append, List.length_cons] at this
      omega
    obtain ⟨b, rfl⟩ := List.length_eq_one_iff.1 hone
    have hmoved := congrArg (List.map f) hrest
    simp only [List.map_append, List.map_cons, List.map_nil, ← hmap] at hmoved
    obtain ⟨c, hc, hca⟩ := hother
    exact hca ((eq_of_cons_eq_concat hmoved.symm).2 _ (List.mem_map_of_mem hc))
  · exact hne (hfound.eq_of_length hlength)

theorem not_isInfix_concat (hmap : l.map f = l'.map f) (hne : l ≠ l')
    (hother : ∃ c ∈ l, f c ≠ f a) : ¬ l <:+: l' ++ [a] := by
  intro hfound
  have hreverse : l.reverse <:+: a :: l'.reverse := by
    simpa using List.reverse_infix.2 hfound
  refine not_isInfix_cons (f := f) ?_ ?_ ?_ hreverse
  · rw [List.map_reverse, List.map_reverse, hmap]
  · exact fun heq => hne (List.reverse_inj.1 heq)
  · simpa using hother

end

/-- A letter that is in lowercase already. -/
theorem lowercaseWithin_letter (before after : List Char) :
    lowercaseWithin before after ['a'] = ['a'] := by
  have hlower : toLower 'a' = ['a'] := by
    decide
  rw [lowercaseWithin, if_neg (by decide), hlower, lowercaseWithin, List.append_nil]

/-- If some sigma is not settled, there is a text with the given one in which its lowercase form is
not found: one letter more in front, or one letter more at the end. -/
theorem exists_unsettled_context {t : List Char} (h : sigmasSettled t = false) :
    ∃ x y, ¬ lowercase t <:+: lowercase (x ++ t ++ y) := by
  obtain ⟨s, u, rfl, hsettles⟩ := exists_unsettled h
  rw [List.append_nil] at hsettles
  have hother : ∃ c ∈ lowercaseWithin [] [] (s ++ capitalSigma :: u),
      plainSigma c ≠ plainSigma 'a' := by
    refine ⟨sigmaForm s.reverse u, ?_, ?_⟩
    · rw [lowercaseWithin_append, lowercaseWithin, if_pos rfl]
      simp
    · rw [plainSigma_sigmaForm]
      decide
  have hcased : firstCased? ['a'] = some true :=
    firstCased?_of_letter (by simp [letterRanges]) []
  have hnothing : ∀ before after, lowercaseWithin before after [] = [] := fun _ _ => rfl
  rcases exists_sigmaForm_ne hcased hsettles with hne | hne
  · -- a letter in front makes a final sigma of one that was not final
    refine ⟨['a'], [], ?_⟩
    rw [lowercase_append, lowercaseWithin_letter, lowercase_eq, hnothing, List.append_nil]
    apply not_isInfix_cons (map_plainSigma_congr _ _ _ _ _) _ hother
    intro heq
    exact hne (by simpa using sigmaForm_eq_of_lowercaseWithin heq)
  · -- a letter at the end makes another sigma of a final one
    refine ⟨[], ['a'], ?_⟩
    rw [lowercase_append, lowercaseWithin_letter, lowercase_eq, hnothing, List.nil_append]
    apply not_isInfix_concat (map_plainSigma_congr _ _ _ _ _) _ hother
    intro heq
    exact hne (by simpa using sigmaForm_eq_of_lowercaseWithin heq)

end Unicode
end FormTemplate
