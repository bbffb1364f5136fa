import FormTemplate.Proofs.Placeholder.Bodies
import FormTemplate.Rendering

/-!
# Seams — the pieces of a rendered text

Rendering puts texts next to each other that were apart.  With the standard delimiters, in a template
of one line, this neither makes a placeholder at a seam nor takes one away, whatever the values are,
as long as they have no opening brace.

* `Piece.settle` — what a piece has become by rendering, as pieces;
* `holes_flatMap_settle` — the placeholders among these pieces are those without a value;
* `hole?_cons_render` — a character that starts no placeholder starts none after rendering either;
* `scan_render` — the pieces of the rendered text are what the pieces of the template have become.
-/

namespace FormTemplate

open Text (isBlank)

/-! ## Rendered pieces -/

namespace Piece

variable {d : Delimiters} {values : Values}

/-- A piece after rendering: a placeholder with a value has become plain text. -/
def settle (d : Delimiters) (values : Values) : Piece → List Piece
  | char c => [char c]
  | hole h =>
    match h.value? d values with
    | some v => v.text.map char
    | none => [hole h]

theorem flatMap_map_char {f : Piece → List Char} (hf : ∀ c, f (char c) = [c]) (t : List Char) :
    (t.map char).flatMap f = t := by
  induction t with
  | nil => rfl
  | cons c t ih => simp [hf, ih]

end Piece

theorem holes_map_char (t : List Char) : holes (t.map Piece.char) = [] := by
  induction t with
  | nil => rfl
  | cons c t ih => simpa using ih

theorem holes_flatMap_settle {d : Delimiters} {values : Values} (ps : List Piece) :
    holes (ps.flatMap (Piece.settle d values)) =
      (holes ps).filter fun h => (h.value? d values).isNone := by
  induction ps with
  | nil => rfl
  | cons piece ps ih =>
      cases piece with
      | char c => simpa [Piece.settle] using ih
      | hole h =>
          cases hv : h.value? d values with
          | none => simp [Piece.settle, hv, ih]
          | some v => simp [Piece.settle, hv, ih, holes_map_char]

theorem flatMap_render_of_holes_nil {d : Delimiters} {values : Values} {ps : List Piece}
    (h : holes ps = []) : ps.flatMap (Piece.render d values) = ps.flatMap (Piece.raw d) := by
  induction ps with
  | nil => rfl
  | cons piece ps ih =>
      cases piece with
      | char c => simp [Piece.render, Piece.raw, ih h]
      | hole g => simp at h

/-! ## The standard delimiters -/

theorem hole?_standard_of_ne {c : Char} {t : List Char} (hc : c ≠ '{') :
    hole? .standard (c :: t) = none := by
  simp [hole?, Delimiters.standard, Text.dropPrefix?, Ne.symm hc]

theorem hole?_standard_of_head?_ne {c : Char} {t : List Char} (ht : t.head? ≠ some '{') :
    hole? .standard (c :: t) = none := by
  cases t with
  | nil => simp [hole?, Delimiters.standard, Text.dropPrefix?]
  | cons e t =>
      have he : ¬ '{' = e := by
        rintro rfl
        exact ht rfl
      simp [hole?, Delimiters.standard, Text.dropPrefix?, he]

theorem scan_standard_append {s : List Char} (hs : '{' ∉ s) (t : List Char) :
    scan .standard (s ++ t) = s.map .char ++ scan .standard t := by
  induction s with
  | nil => rfl
  | cons c s ih =>
      have hc : c ≠ '{' ∧ '{' ∉ s := by
        simpa [eq_comm] using hs
      rw [List.cons_append, scan_of_none (hole?_standard_of_ne hc.1), ih hc.2]
      rfl

section Standard

variable {values : Values} {t : List Char}

/-- A text that begins with no brace does so after rendering, too. -/
theorem head?_render_ne (ht : t.head? ≠ some '{') :
    ((scan .standard t).flatMap (Piece.render .standard values)).head? ≠ some '{' := by
  cases t with
  | nil => simp
  | cons c t =>
      have hc : c ≠ '{' := by
        simpa using ht
      simpa [scan_of_none (hole?_standard_of_ne hc), Piece.render] using hc

/-- Behind a character that starts no placeholder, the rendered rest lets it start none either. -/
theorem hole?_cons_render (values : Values) {c : Char} (hline : '\n' ∉ c :: t)
    (hnone : hole? .standard (c :: t) = none) :
    hole? .standard (c :: (scan .standard t).flatMap (Piece.render .standard values)) = none := by
  cases hholes : holes (scan .standard t) with
  | nil => simpa [flatMap_render_of_holes_nil hholes, flatMap_raw_scan] using hnone
  | cons g hs =>
      by_cases hc : c = '{'
      · -- a placeholder follows, so another brace here would have opened one
        have hg : g ∈ holes (scan .standard t) := by
          simp [hholes]
        rcases exists_of_mem_holes (d := .standard) hg with ⟨y, z, htext⟩
        rw [flatMap_raw_scan] at htext
        subst htext
        have hopen := ne_opening_append_of_none hline hnone
        refine hole?_standard_of_head?_ne (head?_render_ne ?_)
        intro hhead
        rcases List.head?_eq_some_iff.1 hhead with ⟨w, hw⟩
        refine hopen w ?_
        rw [hc, hw]
        rfl
      · exact hole?_standard_of_ne hc

/-- The pieces of a rendered text are what the pieces of the template have become. -/
theorem scan_render (hline : '\n' ∉ t)
    (hvalues : ∀ (n : String) (v : Value), values[n]? = some v → '{' ∉ v.text) :
    scan .standard ((scan .standard t).flatMap (Piece.render .standard values)) =
      (scan .standard t).flatMap (Piece.settle .standard values) := by
  induction t using scan.induct (d := .standard) with
  | case1 t h rest hfound ih =>
      have hraw := eq_of_hole? hfound
      have hrest : '\n' ∉ rest := by
        rw [hraw] at hline
        exact fun hmem => hline (List.mem_append_right _ hmem)
      rw [scan_of_some hfound, List.flatMap_cons, List.flatMap_cons]
      cases hv : h.value? .standard values with
      | some v =>
          -- a replaced placeholder is text without an opening brace
          have hbrace : '{' ∉ v.text := by
            simp only [Hole.value?, Expression.value?] at hv
            split at hv
            · cases hv
            · exact hvalues _ _ hv
          simp [Piece.render, Piece.settle, hv, scan_standard_append hbrace, ih hrest]
      | none =>
          have hkept : hole? .standard
              (h.raw .standard ++ (scan .standard rest).flatMap (Piece.render .standard values)) =
                some (h, (scan .standard rest).flatMap (Piece.render .standard values)) := by
            by_cases hblank : ∃ c ∈ h.body.head?, isBlank c = true
            · -- nothing behind the placeholder is replaced
              have hholes : holes (scan .standard rest) = [] :=
                holes_scan_eq_nil fun x s hs => hole?_suffix_of_blank hline hblank hfound hs
              rw [flatMap_render_of_holes_nil hholes, flatMap_raw_scan, ← hraw]
              exact hfound
            · -- what is behind the placeholder does not matter
              have hbody : ∀ c ∈ h.body.head?, isBlank c = false := by
                intro c hc
                exact Bool.eq_false_iff.2 fun hb => hblank ⟨c, hc, hb⟩
              rw [hraw] at hfound
              exact hole?_append_of_nonblank trimmed_closing_standard.head hbody hfound _
          simp [Piece.render, Piece.settle, hv, scan_of_some hkept, ih hrest]
  | case2 hnone => simp
  | case3 c rest hnone ih =>
      have hrest : '\n' ∉ rest := fun hmem => hline (List.mem_cons_of_mem _ hmem)
      have hchar := hole?_cons_render values hline hnone
      rw [scan_of_none hnone]
      simp [Piece.render, Piece.settle, scan_of_none hchar, ih hrest]

end Standard

end FormTemplate
