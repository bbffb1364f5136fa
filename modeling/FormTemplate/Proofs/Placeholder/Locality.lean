import FormTemplate.Proofs.Placeholder.Pieces
import FormTemplate.Proofs.Placeholder.Reading

/-!
# Locality — what the rest of a template does to a placeholder

A placeholder is read with the whole rest of the template in view.  On one line this matters in few
ways only:

* `hole?_append_of_nonblank` — a placeholder whose body does not begin with a blank is the same
  placeholder whatever follows it;
* `hole?_suffix_of_blank` — behind a placeholder whose body begins with a blank there is no other
  one, since that blank would have been padding and everything up to the other one body;
* `ne_opening_append_of_none` — before a placeholder, no character begins an opening delimiter, since
  it could be closed there.

The delimiters are arbitrary; for the first statement the closing one must not begin with a blank.
-/

namespace FormTemplate

open Text (allBlank isBlank utf8Length)

variable {d : Delimiters}

/-! ## Blanks at the front of a text -/

/-- Blanks at the front of a text end where something else begins. -/
theorem utf8Length_le_of_blank {u x v w v' : List Char} (h : u ++ (x ++ v) = w ++ v') (hx : x ≠ [])
    (hhead : ∀ c ∈ x.head?, isBlank c = false) (hw : allBlank w = true) :
    utf8Length w ≤ utf8Length u := by
  by_contra hlt
  rcases Text.exists_of_append_eq h (by omega) with ⟨y, rfl, hxy⟩
  cases y with
  | nil => simp at hlt
  | cons c y =>
      have hblank : isBlank c = true := by
        simp only [allBlank, List.all_append, List.all_cons, Bool.and_eq_true] at hw
        exact hw.2.1
      cases x with
      | nil => exact hx rfl
      | cons e x =>
          have hec : e = c := (List.cons.inj hxy).1
          simp [hec ▸ hhead e rfl] at hblank

/-! ## A placeholder and the text behind it -/

theorem Hole.Reads.of_parts {t rest : List Char} {h : Hole} (hr : h.Reads d t rest)
    (rest' : List Char) : h.Reads d (h.raw d ++ rest') rest' :=
  { hr with text := rfl }

/-- A shorter body before other text can be closed before the old text as well. -/
theorem Hole.Reads.of_shorter {rest' r : List Char} {h g : Hole}
    (hclosing : ∀ c ∈ d.closing.head?, isBlank c = false) (hg : g.Reads d (h.raw d ++ rest') r)
    (hbefore : g.before = h.before) (hlt : utf8Length g.body < utf8Length h.body)
    (rest : List Char) : ∃ r', g.Reads d (h.raw d ++ rest) r' := by
  have htext : h.body ++ (h.after ++ (d.closing ++ rest')) =
      g.body ++ (g.after ++ (d.closing ++ r)) := by
    have hraw := hg.text
    simpa [Hole.raw, Hole.inner, hbefore] using hraw
  rcases Text.exists_of_append_eq htext.symm hlt.le with ⟨y, hbody, htext⟩
  have hcut : (y ++ h.after) ++ (d.closing ++ rest') = g.after ++ (d.closing ++ r) := by
    simpa using htext.symm
  -- the blanks after the shorter body end before the old closing delimiter
  have hafter : utf8Length g.after ≤ utf8Length (y ++ h.after) :=
    utf8Length_le_of_blank hcut d.closing_ne hclosing hg.after_blank
  rcases Text.exists_of_append_eq hcut.symm hafter with ⟨z, hz, hclose⟩
  have hclose' : d.closing ++ r = (z ++ d.closing) ++ rest' := by
    simpa using hclose
  rcases Text.exists_of_append_eq hclose' (by simp) with ⟨w, hw, -⟩
  refine ⟨w ++ rest, ?_, hg.before_blank, hg.body_ne, hg.body_line, hg.after_blank⟩
  calc
    h.raw d ++ rest
        = d.opening ++ (h.before ++ (g.body ++ ((y ++ h.after) ++ (d.closing ++ rest)))) := by
          simp [Hole.raw, Hole.inner, hbody]
    _ = d.opening ++ (h.before ++ (g.body ++ (g.after ++ ((z ++ d.closing) ++ rest)))) := by
          simp [hz]
    _ = g.raw d ++ (w ++ rest) := by
          simp [hw, Hole.raw, Hole.inner, hbefore]

/-- Where the body does not begin with a blank, and the closing delimiter neither, only a shorter
body behind the same blanks makes a better reading. -/
theorem Hole.Reads.outranks_of_nonblank {t rest r : List Char} {h g : Hole}
    (hclosing : ∀ c ∈ d.closing.head?, isBlank c = false)
    (hbody : ∀ c ∈ h.body.head?, isBlank c = false) (hr : h.Reads d t rest) (hg : g.Reads d t r)
    (hshort : g.before = h.before → ¬ utf8Length g.body < utf8Length h.body) : h.Outranks g := by
  have htext : h.before ++ (h.body ++ (h.after ++ (d.closing ++ rest))) =
      g.before ++ (g.body ++ (g.after ++ (d.closing ++ r))) := by
    have hraw := hr.text.symm.trans hg.text
    simpa [Hole.raw, Hole.inner] using hraw
  rcases (utf8Length_le_of_blank htext hr.body_ne hbody hg.before_blank).lt_or_eq with hlt | heq
  · exact .inl hlt
  · rcases Text.append_eq_of_utf8Length htext heq.symm with ⟨hbefore, htext⟩
    refine .inr ⟨heq, ?_⟩
    rcases Nat.lt_trichotomy (utf8Length h.body) (utf8Length g.body) with hlt | heq' | hgt
    · exact .inl hlt
    · rcases Text.append_eq_of_utf8Length htext heq' with ⟨-, htext⟩
      exact .inr ⟨heq', utf8Length_le_of_blank htext d.closing_ne hclosing hg.after_blank⟩
    · exact absurd hgt (hshort hbefore.symm)

theorem hole?_append_of_nonblank {rest : List Char} {h : Hole}
    (hclosing : ∀ c ∈ d.closing.head?, isBlank c = false)
    (hbody : ∀ c ∈ h.body.head?, isBlank c = false)
    (hfound : hole? d (h.raw d ++ rest) = some (h, rest)) (rest' : List Char) :
    hole? d (h.raw d ++ rest') = some (h, rest') := by
  rcases hole?_eq_some_iff.1 hfound with ⟨hr, hbest⟩
  have hr' := hr.of_parts rest'
  refine hole?_eq_some_iff.2 ⟨hr', ?_⟩
  intro g r hg
  refine hr'.outranks_of_nonblank hclosing hbody hg ?_
  -- a shorter body would have been found before the old text, too
  intro hbefore hlt
  rcases hg.of_shorter hclosing hbefore hlt rest with ⟨r', hg'⟩
  have hrank := hbest g r' hg'
  simp only [Hole.Outranks, hbefore] at hrank
  omega

theorem hole?_suffix_of_blank {t rest : List Char} {h : Hole} (hline : '\n' ∉ t)
    (hblank : ∃ c ∈ h.body.head?, isBlank c = true) (hfound : hole? d t = some (h, rest))
    {x s : List Char} (hrest : rest = x ++ s) : hole? d s = none := by
  rcases hole?_eq_some_iff.1 hfound with ⟨hr, hbest⟩
  rcases hblank with ⟨c, hc, hblank⟩
  refine hole?_eq_none_iff.2 ?_
  intro g r hg
  rcases h with ⟨before, body, after⟩
  cases body with
  | nil => simp at hc
  | cons e body =>
      have hec : e = c := by simpa using hc
      subst hec
      -- the other placeholder's closing delimiter closes a body that begins after the blank
      let long : Hole :=
        ⟨before ++ [e], body ++ after ++ d.closing ++ x ++ d.opening ++ g.inner, []⟩
      have htext : t = long.raw d ++ r := by
        rw [hr.text, hrest, hg.text]
        simp [long, Hole.raw, Hole.inner]
      have hlong : long.Reads d t r := by
        refine ⟨htext, ?_, ?_, ?_, rfl⟩
        · have hbefore := hr.before_blank
          simp only [long, allBlank, List.all_append] at hbefore ⊢
          simp [hbefore, hblank]
        · simp [long, d.closing_ne]
        · intro hmem
          refine hline ?_
          rw [htext]
          simp only [Hole.raw, Hole.inner, List.mem_append]
          exact .inl (.inl (.inr (.inl (.inr hmem))))
      have hrank := hbest long r hlong
      have hpos := e.utf8Size_pos
      simp only [Hole.Outranks, long, Text.utf8Length_append, Text.utf8Length_cons] at hrank
      omega

/-! ## A placeholder and the text before it -/

theorem ne_opening_append_of_none {c : Char} {y z : List Char} {g : Hole}
    (hline : '\n' ∉ c :: (y ++ (g.raw d ++ z))) (hnone : hole? d (c :: (y ++ (g.raw d ++ z))) = none)
    (w : List Char) : c :: (y ++ (g.raw d ++ z)) ≠ d.opening ++ w := by
  intro htext
  have hcut : d.opening ++ w = (c :: y ++ d.opening ++ g.inner) ++ (d.closing ++ z) := by
    rw [← htext]
    simp [Hole.raw]
  have hle : utf8Length d.opening ≤ utf8Length (c :: y ++ d.opening ++ g.inner) := by
    simp only [Text.utf8Length_append]
    omega
  rcases Text.exists_of_append_eq hcut hle with ⟨body, hbody, hw⟩
  have hraw : c :: (y ++ (g.raw d ++ z)) = Hole.raw d ⟨[], body, []⟩ ++ z := by
    rw [htext, hw]
    simp [Hole.raw, Hole.inner]
  refine hole?_eq_none_iff.1 hnone ⟨[], body, []⟩ z ⟨hraw, rfl, ?_, ?_, rfl⟩
  · rintro rfl
    have hsize := congrArg utf8Length hbody
    have hpos := c.utf8Size_pos
    simp only [List.cons_append, Text.utf8Length_cons, Text.utf8Length_append,
      Text.utf8Length_nil] at hsize
    omega
  · intro hmem
    refine hline ?_
    rw [hraw]
    simp [Hole.raw, Hole.inner, hmem]

end FormTemplate
