import FormTemplate.Proofs.Catalog.Index
import FormTemplate.Proofs.Rendering.Seams
import FormTemplate.Proofs.Rendering.Splicing

/-!
# Stages — rendering a template in several steps

With the standard delimiters, a template of one line can be rendered with some of its values first
and with others later.

* `Placeholder.stays` — no value replaces the placeholder;
* `unplaced_render`, `declarations_render` — the placeholders that are left are those that stay;
* `entries_parse_render` — the variables that are left are those without a value;
* `render_render` — two steps do what one step does with the values of both;
* `render_in_stages` — all of this together.

A value may hold closing braces and line feeds, but no opening brace: it could open a placeholder.
-/

namespace FormTemplate

variable {d : Delimiters} {content : String} {values : Values}

/-! ## Placeholders that stay -/

/-- There is no name, or no value for it. -/
def Expression.stays (values : Values) (e : Expression) : Bool :=
  e.name.isEmpty || !values.contains (String.ofList e.name)

def Placeholder.stays (d : Delimiters) (values : Values) (p : Placeholder) : Bool :=
  (p.declaration d).stays values

theorem Expression.isNone_value? (e : Expression) : (e.value? values).isNone = e.stays values := by
  simp only [Expression.value?, Expression.stays]
  by_cases hname : e.name.isEmpty
  · simp [hname]
  · simp [hname, ← Option.not_isSome]

theorem map_unplaced_filter_stays (d : Delimiters) (values : Values) (content : String) :
    ((placeholders d content).filter (Placeholder.stays d values)).map Placeholder.unplaced =
      ((holes (scan d content.toList)).filter fun h => (h.value? d values).isNone).map
        (Hole.unplaced d) := by
  -- whether a placeholder stays can be told without its place
  let stays : String × String → Bool := fun s =>
    (Expression.parse d.separator s.2.toList).stays values
  have hhole : (fun h : Hole => (h.value? d values).isNone) = stays ∘ Hole.unplaced d := by
    funext h
    simp [stays, Hole.value?, Hole.unplaced, Expression.isNone_value?]
  calc
    ((placeholders d content).filter (stays ∘ Placeholder.unplaced)).map Placeholder.unplaced
        = ((placeholders d content).map Placeholder.unplaced).filter stays :=
          List.filter_map.symm
    _ = ((holes (scan d content.toList)).map (Hole.unplaced d)).filter stays := by
          rw [map_unplaced_placeholders]
    _ = ((holes (scan d content.toList)).filter fun h => (h.value? d values).isNone).map
          (Hole.unplaced d) := by
          rw [List.filter_map, hhole]

/-! ## A piece in two steps -/

theorem Piece.flatMap_render_settle (d : Delimiters) (values later : Values) (piece : Piece) :
    (piece.settle d values).flatMap (Piece.render d later) = piece.render d (later ∪ values) := by
  cases piece with
  | char c => rfl
  | hole h =>
      have hunion : h.value? d (later ∪ values) = (h.value? d values).or (h.value? d later) := by
        simp only [Hole.value?, Expression.value?_eq, Std.ExtTreeMap.getElem?_union]
        split <;> rfl
      cases hv : h.value? d values with
      | some v =>
          have hchar : (v.text.map Piece.char).flatMap (Piece.render d later) = v.text :=
            flatMap_map_char (fun c => rfl) _
          simp [settle, Piece.render, hunion, hv, hchar]
      | none => simp [settle, Piece.render, hunion, hv]

/-! ## A template of one line -/

section OneLine

variable (hline : '\n' ∉ content.toList)
  (hvalues : ∀ (n : String) (v : Value), values[n]? = some v → '{' ∉ v.text)

include hline hvalues

theorem scan_toList_render : scan .standard (render .standard content values).toList =
    (scan .standard content.toList).flatMap (Piece.settle .standard values) := by
  have htext := scan_render hline hvalues
  simpa [render, renderText] using htext

theorem unplaced_render :
    (placeholders .standard (render .standard content values)).map Placeholder.unplaced =
      ((placeholders .standard content).filter (Placeholder.stays .standard values)).map
        Placeholder.unplaced := by
  rw [map_unplaced_placeholders, scan_toList_render hline hvalues, holes_flatMap_settle,
    map_unplaced_filter_stays]

theorem declarations_render :
    declarations .standard (render .standard content values) =
      (declarations .standard content).filter (Expression.stays values) := by
  have hdeclared : ∀ ps : List Placeholder,
      ps.map (Placeholder.declaration .standard) =
        (ps.map Placeholder.unplaced).map fun s =>
          Expression.parse Delimiters.standard.separator s.2.toList := by
    intro ps
    rw [List.map_map]
    rfl
  rw [declarations, hdeclared, unplaced_render hline hvalues, ← hdeclared, declarations,
    List.filter_map]
  rfl

theorem entries_parse_render (l : Lexicon) :
    (Catalog.parse .standard l (render .standard content values)).entries =
      (Catalog.parse .standard l content).entries.filter fun v => !values.contains v.name := by
  let unfilled : List Char → Bool := fun n => !values.contains (String.ofList n)
  -- what stays and has a name is what has a name without a value
  have hnamed : named (declarations .standard (render .standard content values)) =
      (named (declarations .standard content)).filter fun e => unfilled e.name := by
    rw [declarations_render hline hvalues, named, named, List.filter_filter, List.filter_filter]
    refine List.filter_congr ?_
    intro e _
    cases hname : e.name <;> simp [unfilled, Expression.stays, hname]
  have hdeclare : (fun v : Variable => !values.contains v.name) ∘ Variable.declare l =
      fun e => unfilled e.name := by
    funext e
    simp [unfilled, Variable.name_declare]
  have hleft := (Catalog.reads_parse .standard l (render .standard content values)).entries
  have hall := (Catalog.reads_parse .standard l content).entries
  rw [hleft, hall, hnamed, ← filter_firstOfEachName, List.filter_map, hdeclare]

theorem render_render (later : Values) :
    render .standard (render .standard content values) later =
      render .standard content (later ∪ values) := by
  have hpieces : (fun piece =>
        (piece.settle .standard values).flatMap (Piece.render .standard later)) =
      Piece.render .standard (later ∪ values) := by
    funext piece
    exact piece.flatMap_render_settle .standard values later
  have htext : renderText .standard later (render .standard content values).toList =
      renderText .standard (later ∪ values) content.toList := by
    calc
      renderText .standard later (render .standard content values).toList
          = ((scan .standard content.toList).flatMap (Piece.settle .standard values)).flatMap
              (Piece.render .standard later) := by
            rw [renderText, scan_toList_render hline hvalues]
      _ = (scan .standard content.toList).flatMap fun piece =>
              (piece.settle .standard values).flatMap (Piece.render .standard later) :=
            List.flatMap_assoc
      _ = renderText .standard (later ∪ values) content.toList := by
            rw [hpieces, renderText]
  exact congrArg String.ofList htext

end OneLine

/-! ## Stages -/

/-- After a first step the placeholders that are left are those that stay, as they are written in the
template and in the same order.  The variables that are left are those of the template without a
value, with whatever their placeholders declare, and so none when every name has a value.  A second
step gives what one step gives with the values of both, of which those of the first step win. -/
theorem render_in_stages (l : Lexicon) (content : String) (values : Values)
    (hline : '\n' ∉ content.toList)
    (hvalues : ∀ (n : String) (v : Value), values[n]? = some v → '{' ∉ v.text) :
    let rendered := render .standard content values
    let catalog := Catalog.parse .standard l content
    let left := Catalog.parse .standard l rendered
    (placeholders .standard rendered).map Placeholder.unplaced =
        ((placeholders .standard content).filter (Placeholder.stays .standard values)).map
          Placeholder.unplaced ∧
      left.entries = catalog.entries.filter (fun v => !values.contains v.name) ∧
      ((∀ n ∈ catalog.names, n ∈ values) → left.entries = []) ∧
      ∀ later : Values,
        render .standard rendered later = render .standard content (later ∪ values) := by
  intro rendered catalog left
  have hentries : left.entries = catalog.entries.filter fun v => !values.contains v.name :=
    entries_parse_render hline hvalues l
  refine ⟨unplaced_render hline hvalues, hentries, ?_, render_render hline hvalues⟩
  intro hall
  rw [hentries, List.filter_eq_nil_iff]
  intro v hv
  have hmem := hall v.name (List.mem_map_of_mem hv)
  simpa using hmem

/-- A stray brace before a placeholder that is replaced, and another placeholder right behind it. -/
theorem render_in_stages_seam :
    let content := "\x7b \x7b\x7ba\x7d\x7d\x7b\x7b b \x7d\x7d"
    let values : Values := (∅ : Values).insert "a" (.string "x")
    ('\n' ∉ content.toList ∧
        ∀ (n : String) (v : Value), values[n]? = some v → '{' ∉ v.text) ∧
      (placeholders .standard (render .standard content values)).map Placeholder.unplaced =
        [("\x7b\x7b b \x7d\x7d", "b")] ∧
      render .standard (render .standard content values) ((∅ : Values).insert "b" (.string "y")) =
        "\x7b xy" := by
  intro content values
  have hline : '\n' ∉ content.toList := by
    decide
  have hvalues : ∀ (n : String) (v : Value), values[n]? = some v → '{' ∉ v.text := by
    intro n v hv
    rw [Std.ExtTreeMap.getElem?_insert] at hv
    split at hv
    · cases hv
      decide
    · simp at hv
  have hscan : scan .standard content.toList =
      [.char '{', .char ' ', .hole ⟨[], ['a'], []⟩, .hole ⟨[' '], ['b'], [' ']⟩] := by
    have htext : content.toList =
        ['{', ' ', '{', '{', 'a', '}', '}', '{', '{', ' ', 'b', ' ', '}', '}'] := by
      decide
    rw [htext, scan_of_none (by rfl), scan_of_none (by rfl), scan_of_some (by rfl),
      scan_of_some (by rfl), scan_nil]
  have ha : Expression.parse Delimiters.standard.separator (Hole.expression ⟨[], ['a'], []⟩) =
      ⟨['a'], none, none, none⟩ := by
    decide
  have hb : Expression.parse Delimiters.standard.separator (Hole.expression ⟨[' '], ['b'], [' ']⟩) =
      ⟨['b'], none, none, none⟩ := by
    decide
  rcases render_in_stages .empty content values hline hvalues with ⟨hleft, -, -, hlater⟩
  refine ⟨⟨hline, hvalues⟩, ?_, ?_⟩
  · rw [hleft, map_unplaced_filter_stays, hscan]
    simp [values, Hole.value?, Expression.value?, ha, hb]
    rfl
  · have hx : ((∅ : Values).insert "b" (.string "y") ∪ values)["a"]? = some (.string "x") := by
      rw [Std.ExtTreeMap.getElem?_union]
      simp [values]
    have hy : ((∅ : Values).insert "b" (.string "y") ∪ values)["b"]? = some (.string "y") := by
      rw [Std.ExtTreeMap.getElem?_union]
      simp [values]
    rw [hlater, render, renderText, hscan]
    simp only [List.flatMap_cons, Piece.render, Hole.value?, Expression.value?_eq, ha, hb]
    rw [hx, hy]
    rfl

end FormTemplate
