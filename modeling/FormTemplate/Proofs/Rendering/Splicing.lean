import FormTemplate.Proofs.Placeholder.Pieces
import FormTemplate.Rendering

/-!
# Splicing — rendering as replacement at places

Rendering works on the pieces of a template.  Here it is described by places: the template is cut at
the ranges of its placeholders, and each range is filled on its own.

* `Placeholder.rendered` — what a placeholder becomes;
* `splice` — a text with something else at the ranges of placeholders;
* `render_eq_splice` — rendering splices in what each placeholder becomes, so that it depends on the
  values of the template's own names only.
-/

namespace FormTemplate

open Text (utf8Length)

variable {d : Delimiters} {values : Values}

/-- The text of the value for a placeholder's name; without a name or a value, the placeholder as it
is written. -/
def Placeholder.rendered (d : Delimiters) (values : Values) (p : Placeholder) : String :=
  if p.name d = "" then p.raw
  else
    match values[p.name d]? with
    | some v => String.ofList v.text
    | none => p.raw

theorem Placeholder.rendered_of_value {p : Placeholder} {v : Value} (hname : p.name d ≠ "")
    (hv : values[p.name d]? = some v) : p.rendered d values = String.ofList v.text := by
  simp [rendered, hname, hv]

theorem Placeholder.rendered_of_absent {p : Placeholder} (h : p.name d ∉ values) :
    p.rendered d values = p.raw := by
  simp [rendered, h]

/-- The text `t` from byte `pos` on, with `f p` in the range of each placeholder `p`. -/
def splice (t : String) (f : Placeholder → String) (pos : Nat) : List Placeholder → String
  | [] => String.Pos.Raw.extract t ⟨pos⟩ t.rawEndPos
  | p :: ps => String.Pos.Raw.extract t ⟨pos⟩ ⟨p.start⟩ ++ f p ++ splice t f p.stop ps

theorem splice_congr {t : String} {f g : Placeholder → String} {pos : Nat} {ps : List Placeholder}
    (h : ∀ p ∈ ps, f p = g p) : splice t f pos ps = splice t g pos ps := by
  induction ps generalizing pos with
  | nil => rfl
  | cons p ps ih =>
      have hp := h p List.mem_cons_self
      have hps : splice t f p.stop ps = splice t g p.stop ps :=
        ih fun q hq => h q (List.mem_cons_of_mem _ hq)
      simp [splice, hp, hps]

/-! ## Holes and placeholders are filled alike -/

theorem Expression.value?_eq (e : Expression) :
    e.value? values = if String.ofList e.name = "" then none else values[String.ofList e.name]? := by
  simp [Expression.value?]

theorem rendered_of_hole (start stop : Nat) (h : Hole) :
    Placeholder.rendered d values
        ⟨start, stop, String.ofList (h.raw d), String.ofList h.expression⟩ =
      String.ofList (Piece.render d values (.hole h)) := by
  simp only [Placeholder.rendered, Piece.render, Hole.value?, Expression.value?_eq,
    Placeholder.name, Placeholder.declaration, String.toList_ofList]
  split
  · rfl
  · cases values[String.ofList (Expression.parse d.separator h.expression).name]? <;> rfl

/-- Splicing at the places of pieces renders the pieces.  `u` is what has been filled already, and
`gap` is the text since then that lies outside of all placeholders. -/
theorem splice_locate (u gap : List Char) (ps : List Piece) :
    splice (String.ofList (u ++ (gap ++ ps.flatMap (Piece.raw d)))) (Placeholder.rendered d values)
        (utf8Length u) (locate d (utf8Length u + utf8Length gap) ps) =
      String.ofList (gap ++ ps.flatMap (Piece.render d values)) := by
  induction ps generalizing u gap with
  | nil =>
      have hspan : Text.Span (String.ofList (u ++ gap)) (utf8Length u)
          (utf8Length u + utf8Length gap) (String.ofList gap) :=
        Text.span_of_eq (v := []) (by simp) rfl rfl
      have hend : (String.ofList (u ++ gap)).rawEndPos = ⟨utf8Length u + utf8Length gap⟩ := by
        rw [String.rawEndPos_ofList, ← Text.utf8Length_eq_utf8Len, Text.utf8Length_append]
      simp only [locate, splice, List.flatMap_nil, List.append_nil]
      rw [hend, hspan.extract_eq]
  | cons piece ps ih =>
      cases piece with
      | char c =>
          have hstep := ih u (gap ++ [c])
          simpa [locate, Piece.raw, Piece.render, Nat.add_assoc] using hstep
      | hole h =>
          have hgap : Text.Span
              (String.ofList (u ++ (gap ++ (Piece.hole h :: ps).flatMap (Piece.raw d))))
              (utf8Length u) (utf8Length u + utf8Length gap) (String.ofList gap) :=
            Text.span_of_eq rfl rfl rfl
          have hstep := ih (u ++ (gap ++ h.raw d)) []
          have htext : u ++ (gap ++ (Piece.hole h :: ps).flatMap (Piece.raw d)) =
              u ++ (gap ++ h.raw d) ++ ([] ++ ps.flatMap (Piece.raw d)) := by
            simp [Piece.raw]
          have hsize : utf8Length u + utf8Length gap + utf8Length (h.raw d) =
              utf8Length (u ++ (gap ++ h.raw d)) := by
            simp [Nat.add_assoc]
          rw [Text.utf8Length_nil, Nat.add_zero] at hstep
          simp only [locate, splice, rendered_of_hole]
          rw [hgap.extract_eq, htext, hsize, hstep]
          simp [String.append_assoc]

/-! ## Rendering -/

theorem render_eq_splice_rendered (d : Delimiters) (values : Values) (content : String) :
    render d content values =
      splice content (Placeholder.rendered d values) 0 (placeholders d content) := by
  have hsplice := @splice_locate d values [] [] (scan d content.toList)
  rw [flatMap_raw_scan] at hsplice
  simpa [render, renderText, placeholders] using hsplice.symm

/-- Without values nothing changes. -/
theorem render_empty (d : Delimiters) (content : String) : render d content ∅ = content := by
  have hraw : Piece.render d ∅ = Piece.raw d := by
    funext piece
    cases piece with
    | char c => rfl
    | hole h => simp [Piece.render, Piece.raw, Hole.value?, Expression.value?]
  rw [render, renderText, hraw, flatMap_raw_scan, String.ofList_toList]

/-- Only the values of the names of placeholders matter. -/
theorem render_congr {content : String} {values' : Values}
    (h : ∀ p ∈ placeholders d content, p.name d ≠ "" →
      values[p.name d]? = values'[p.name d]?) :
    render d content values = render d content values' := by
  rw [render_eq_splice_rendered, render_eq_splice_rendered]
  refine splice_congr ?_
  intro p hp
  by_cases hname : p.name d = ""
  · simp [Placeholder.rendered, hname]
  · simp [Placeholder.rendered, hname, h p hp hname]

/-- Rendering fills the range of each placeholder with what it becomes, and leaves the rest alone.
Hence two value sets that agree on the names of the placeholders give the same text, and one that has
none of these names gives the template back. -/
theorem render_eq_splice (d : Delimiters) (content : String) (values : Values) :
    render d content values =
        splice content (Placeholder.rendered d values) 0 (placeholders d content) ∧
      (∀ values' : Values,
        (∀ p ∈ placeholders d content, p.name d ≠ "" → values[p.name d]? = values'[p.name d]?) →
          render d content values = render d content values') ∧
      ((∀ p ∈ placeholders d content, p.name d ≠ "" → p.name d ∉ values) →
        render d content values = content) := by
  refine ⟨render_eq_splice_rendered d values content, fun values' => render_congr, ?_⟩
  intro hnone
  calc
    render d content values = render d content ∅ := by
      refine render_congr ?_
      intro p hp hname
      simp [hnone p hp hname]
    _ = content := render_empty d content

end FormTemplate
