import FormTemplate.Expression
import FormTemplate.Proofs.Text.Segmentation
import FormTemplate.Proofs.Text.Trim

/-!
# Segments — what is read from an expression

An expression is cut into at most four pieces.  Each is trimmed after that, so that a separator of
blanks still counts as one, and a blank piece does not move the pieces behind it.

* `Expression.readPiece?` — what is read from a piece after the name;
* `Expression.parse_of_segmentation` — an expression is read from the pieces of its segmentation;
* `Expression.parse_join` — four trimmed segments are read back from the text they are joined to;
* `segments_lossless` — the only segmentation of an expression, and what is read from it.
-/

namespace FormTemplate

/-! ## Pieces of an expression -/

namespace Expression

open Text (Trimmed Segmentation StartsNowhere allBlank)

variable {sep : List Char}

/-- What is read from a piece after the name: nothing where the piece is missing or blank. -/
def readPiece? (p : Option (List Char)) : Option (List Char) :=
  (p.filter fun s => !allBlank s).map Text.trim

theorem readPiece?_of_trimmed {s : List Char} (h : Trimmed s) (hne : s ≠ []) :
    readPiece? (some s) = some s := by
  simp [readPiece?, h.allBlank_eq_false hne, h.trim_eq]

/-- A segment is blank if nothing is left of it after trimming. -/
theorem segment?_map_trim (ps : List (List Char)) (i : Nat) :
    segment? (ps.map Text.trim) i = readPiece? ps[i]? := by
  have hblank (s : List Char) : (Text.trim s).isEmpty = allBlank s := by
    rw [Bool.eq_iff_iff, List.isEmpty_iff, Text.trim_eq_nil_iff]
  rw [segment?, List.getElem?_map, readPiece?]
  cases ps[i]? with
  | none => rfl
  | some s => cases hs : allBlank s <;> simp [Option.filter, hblank, hs]

/-- What is read from an expression are the pieces of its segmentation. -/
theorem parse_of_segmentation (hsep : sep ≠ []) {t : List Char} {ps : List (List Char)}
    (h : Segmentation sep maxSegments t ps) :
    parse sep t =
      { name := Text.trim (ps.headD [])
        explicitType := readPiece? ps[1]?
        optionsOrRules := readPiece? ps[2]?
        extraRules := readPiece? ps[3]? } := by
  have hcut : ps = Text.cut sep maxSegments t := h.eq_cut
  have hname : (ps.map Text.trim).headD [] = Text.trim (ps.headD []) := by
    cases ps with
    | nil => exact absurd rfl h.ne_nil
    | cons p ps => rfl
  rw [parse, Text.pieces_of_ne_nil hsep, ← hcut]
  simp only [segment?_map_trim, hname]

/-- Segments that bring no separator before the one behind them are read back, and the last one may
have separators of its own. -/
theorem parse_join (hsep : sep ≠ []) {name type rules extra : List Char}
    (hcut : ∀ s ∈ [name, type, rules], StartsNowhere sep s sep)
    (htrimmed : ∀ s ∈ [name, type, rules, extra], Trimmed s)
    (hne : ∀ s ∈ [type, rules, extra], s ≠ []) :
    parse sep (Text.join sep [name, type, rules, extra]) =
      ⟨name, some type, some rules, some extra⟩ := by
  have hsegments : Segmentation sep maxSegments (Text.join sep [name, type, rules, extra])
      [name, type, rules, extra] :=
    ⟨List.cons_ne_nil _ _, le_rfl, rfl, hcut, fun hlt => absurd hlt (lt_irrefl 4)⟩
  have hread (s : List Char) (hs : s ∈ [type, rules, extra]) : readPiece? (some s) = some s :=
    readPiece?_of_trimmed (htrimmed s (List.mem_cons_of_mem name hs)) (hne s hs)
  rw [parse_of_segmentation hsep hsegments]
  simp only [List.headD_cons, (htrimmed name List.mem_cons_self).trim_eq,
    List.getElem?_cons_succ, List.getElem?_cons_zero]
  rw [hread type (by simp), hread rules (by simp), hread extra (by simp)]

end Expression

/-! ## Reading back -/

open Text (Segmentation StartsNowhere Trimmed)

/-- An expression has exactly one segmentation into at most four pieces, and what is read from it are
these pieces, trimmed, where a piece after the name is left out if it is missing or blank.  Hence
four trimmed segments are read back from the text they are joined to, if there is something in each
of them and none but the last one brings a separator before the one behind it. -/
theorem segments_lossless {sep : List Char} (hsep : sep ≠ []) :
    (∀ t, ∃! ps, Segmentation sep 4 t ps) ∧
      (∀ t ps, Segmentation sep 4 t ps →
        Expression.parse sep t =
          { name := Text.trim (ps.headD [])
            explicitType := Expression.readPiece? ps[1]?
            optionsOrRules := Expression.readPiece? ps[2]?
            extraRules := Expression.readPiece? ps[3]? }) ∧
      ∀ name type rules extra,
        (∀ s ∈ [name, type, rules], StartsNowhere sep s sep) →
          (∀ s ∈ [name, type, rules, extra], s ≠ [] ∧ Trimmed s) →
            Expression.parse sep (Text.join sep [name, type, rules, extra]) =
              ⟨name, some type, some rules, some extra⟩ := by
  refine ⟨?_, ?_, ?_⟩
  · intro t
    exact ⟨Text.cut sep 4 t, Text.segmentation_cut 3 t, fun ps h => h.eq_cut⟩
  · intro t ps h
    exact Expression.parse_of_segmentation hsep h
  · intro name type rules extra hcut hsegments
    exact Expression.parse_join hsep hcut (fun s hs => (hsegments s hs).2)
      fun s hs => (hsegments s (List.mem_cons_of_mem name hs)).1

/-- A separator that overlaps with itself, between pieces that begin or end with part of it. -/
theorem segments_lossless_overlapping :
    let sep := [':', ':']
    let ps := [['a'], [':', 'b'], ['c', ':', 'd'], [':', ':', 'e', ':']]
    (sep ≠ [] ∧ (∀ s ∈ ps.take 3, StartsNowhere sep s sep) ∧ ∀ s ∈ ps, s ≠ [] ∧ Trimmed s) ∧
      Segmentation sep 4 "a:::b::c:d::::e:".toList ps ∧
      Expression.parse sep "a:::b::c:d::::e:".toList =
        ⟨['a'], some [':', 'b'], some ['c', ':', 'd'], some [':', ':', 'e', ':']⟩ := by
  intro sep ps
  have hsep : sep ≠ [] := List.cons_ne_nil _ _
  have hcut : ∀ s ∈ ps.take 3, StartsNowhere sep s sep := by
    simp [sep, ps, Text.startsNowhere_cons, Text.startsNowhere_nil]
  have hnonblank : ∀ s ∈ ps, s ≠ [] ∧ s.all (fun c => !Text.isBlank c) = true := by
    decide
  have hsegments : ∀ s ∈ ps, s ≠ [] ∧ Trimmed s := by
    intro s hs
    obtain ⟨hne, hall⟩ := hnonblank s hs
    exact ⟨hne, Trimmed.of_nonblank fun c hc => by simpa using List.all_eq_true.1 hall c hc⟩
  have htext : "a:::b::c:d::::e:".toList = Text.join sep ps := by
    decide
  refine ⟨⟨hsep, hcut, hsegments⟩, ?_, ?_⟩
  · exact ⟨List.cons_ne_nil _ _, le_rfl, htext, hcut, fun hlt => absurd hlt (lt_irrefl 4)⟩
  · rw [htext]
    exact (segments_lossless hsep).2.2 _ _ _ _ hcut hsegments

end FormTemplate
