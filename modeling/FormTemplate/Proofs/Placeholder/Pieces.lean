import FormTemplate.Expression
import FormTemplate.Proofs.Text.Span

/-!
# Pieces — a template as characters and holes

* `scan_of_some`, `scan_of_none` — one step of `scan`; `scan.induct` is the induction that goes with
  them;
* `flatMap_raw_scan` — the pieces of a template give the template back;
* `map_unplaced_placeholders` — apart from their places, placeholders are the holes among the pieces;
* `Placeholder.name` — the name that a placeholder declares, possibly empty.
-/

namespace FormTemplate

variable {d : Delimiters}

/-! ## Steps of a scan -/

theorem hole?_nil : hole? d [] = none := by
  have hdrop : Text.dropPrefix? d.opening [] = none := by
    cases ho : d.opening with
    | nil => exact absurd ho d.opening_ne
    | cons a l => rfl
  simp [hole?, hdrop]

@[simp]
theorem scan_nil : scan d [] = [] := by
  rw [scan]
  split
  · simp_all [hole?_nil]
  · rfl

theorem scan_of_some {t rest : List Char} {h : Hole} (hfound : hole? d t = some (h, rest)) :
    scan d t = .hole h :: scan d rest := by
  rw [scan]
  split <;> simp_all

theorem scan_of_none {c : Char} {t : List Char} (hnone : hole? d (c :: t) = none) :
    scan d (c :: t) = .char c :: scan d t := by
  rw [scan]
  split <;> simp_all

/-- No character of a template is lost or moved. -/
theorem flatMap_raw_scan (t : List Char) : (scan d t).flatMap (Piece.raw d) = t := by
  induction t using scan.induct (d := d) with
  | case1 t h rest hfound ih =>
      rw [scan_of_some hfound, List.flatMap_cons, ih]
      exact (eq_of_hole? hfound).symm
  | case2 hnone => simp
  | case3 c rest hnone ih =>
      rw [scan_of_none hnone, List.flatMap_cons, ih]
      rfl

/-! ## Placeholders and holes -/

/-- The placeholders among pieces, without the text around them. -/
def holes (ps : List Piece) : List Hole :=
  ps.filterMap fun
    | .char _ => none
    | .hole h => some h

@[simp]
theorem holes_nil : holes [] = [] := rfl

@[simp]
theorem holes_char (c : Char) (ps : List Piece) : holes (.char c :: ps) = holes ps := rfl

@[simp]
theorem holes_hole (h : Hole) (ps : List Piece) : holes (.hole h :: ps) = h :: holes ps := rfl

@[simp]
theorem holes_append (ps qs : List Piece) : holes (ps ++ qs) = holes ps ++ holes qs := by
  simp [holes]

theorem exists_of_mem_holes {h : Hole} {ps : List Piece} (hh : h ∈ holes ps) :
    ∃ y z, ps.flatMap (Piece.raw d) = y ++ (h.raw d ++ z) := by
  induction ps with
  | nil => cases hh
  | cons piece ps ih =>
      cases piece with
      | char c =>
          rcases ih hh with ⟨y, z, htext⟩
          exact ⟨c :: y, z, by simp [Piece.raw, htext]⟩
      | hole g =>
          rcases List.mem_cons.1 hh with rfl | hh
          · exact ⟨[], ps.flatMap (Piece.raw d), rfl⟩
          · rcases ih hh with ⟨y, z, htext⟩
            exact ⟨g.raw d ++ y, z, by simp [Piece.raw, htext]⟩

/-- Without a placeholder in any rest of a template there is none in the template. -/
theorem holes_scan_eq_nil {t : List Char} (h : ∀ x s, t = x ++ s → hole? d s = none) :
    holes (scan d t) = [] := by
  induction t with
  | nil => simp
  | cons c t ih =>
      rw [scan_of_none (h [] (c :: t) rfl), holes_char]
      exact ih fun x s hs => h (c :: x) s (by rw [hs, List.cons_append])

/-! ## Placeholders without their places -/

/-- How a placeholder is written and what it says, wherever it stands. -/
def Placeholder.unplaced (p : Placeholder) : String × String :=
  (p.raw, p.expression)

def Hole.unplaced (d : Delimiters) (h : Hole) : String × String :=
  (String.ofList (h.raw d), String.ofList h.expression)

theorem map_unplaced_locate (start : Nat) (ps : List Piece) :
    (locate d start ps).map Placeholder.unplaced = (holes ps).map (Hole.unplaced d) := by
  induction ps generalizing start with
  | nil => rfl
  | cons piece ps ih =>
      cases piece with
      | char c => simpa [locate] using ih _
      | hole h => simp [locate, Placeholder.unplaced, Hole.unplaced, ih]

theorem map_unplaced_placeholders (d : Delimiters) (content : String) :
    (placeholders d content).map Placeholder.unplaced =
      (holes (scan d content.toList)).map (Hole.unplaced d) :=
  map_unplaced_locate 0 _

/-! ## Names -/

namespace Placeholder

def name (d : Delimiters) (p : Placeholder) : String :=
  String.ofList (p.declaration d).name

theorem name_eq_empty_iff {p : Placeholder} : p.name d = "" ↔ (p.declaration d).name = [] := by
  simp [name]

end Placeholder

end FormTemplate
