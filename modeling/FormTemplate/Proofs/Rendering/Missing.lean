import FormTemplate.Proofs.Catalog.Index
import FormTemplate.Proofs.Rendering.Splicing

/-!
# Missing — the names that a rendered template still waits for

A catalog says which of its names have no value.  Rendering knows nothing of catalogs and takes every
placeholder by itself.  Both tell the same names, each at its first placeholder.

* `Placeholder.Kept` — rendering leaves a placeholder as it is written, for whatever values;
* `Placeholder.kept_iff` — this is because it has no name, or none with a value;
* `Placeholder.rendered_eq_raw_iff` — the other way for it to be seen unchanged;
* `map_name_firstOfEachName` — first declarations are found by leaving out repeated names;
* `Catalog.missingNames_eq_eraseDups`, `map_name_filter_named` — so names are missing placeholder by
  placeholder;
* `missingNames_eq_kept` — the names without a value are those of the placeholders that are left.
-/

namespace FormTemplate

variable {d : Delimiters} {values : Values}

/-! ## Placeholders that are left -/

namespace Placeholder

variable {p : Placeholder}

/-- Rendering leaves the placeholder as it is written, with whatever values for the names that have
one.  A single value does not tell, since its text may be that of the placeholder. -/
def Kept (d : Delimiters) (values : Values) (p : Placeholder) : Prop :=
  ∀ others : Values, (∀ n : String, n ∈ others ↔ n ∈ values) → p.rendered d others = p.raw

theorem kept_iff : p.Kept d values ↔ p.name d = "" ∨ p.name d ∉ values := by
  constructor
  · intro hkept
    by_contra hsupplied
    obtain ⟨hname, hmem⟩ := not_or.1 hsupplied
    rw [not_not] at hmem
    -- another value for the name would be seen in the place of the placeholder
    have hkeys : ∀ n : String,
        n ∈ values.insert (p.name d) (.string (p.raw ++ "-")) ↔ n ∈ values := by
      intro n
      rw [Std.ExtTreeMap.mem_insert, compare_eq_iff_eq]
      constructor
      · rintro (rfl | hn)
        · exact hmem
        · exact hn
      · exact .inr
    have hraw := hkept _ hkeys
    rw [rendered_of_value hname Std.ExtTreeMap.getElem?_insert_self, Value.text,
      String.ofList_toList] at hraw
    have hlength := congrArg String.length hraw
    rw [String.length_append] at hlength
    simp at hlength
  · rintro (hname | habsent) others hkeys
    · simp [rendered, hname]
    · exact rendered_of_absent fun hmem => habsent ((hkeys _).1 hmem)

/-- What stands in the place of a placeholder afterwards is the placeholder itself only if it was
left, or if it is the text of its value. -/
theorem rendered_eq_raw_iff :
    p.rendered d values = p.raw ↔
      p.Kept d values ∨
        p.name d ≠ "" ∧ ∃ v, values[p.name d]? = some v ∧ String.ofList v.text = p.raw := by
  constructor
  · intro hraw
    by_cases hkept : p.Kept d values
    · exact .inl hkept
    · obtain ⟨hname, hmem⟩ := not_or.1 (mt kept_iff.2 hkept)
      obtain ⟨v, hv⟩ := Option.isSome_iff_exists.1
        (Std.ExtTreeMap.mem_iff_isSome_getElem?.1 (not_not.1 hmem))
      rw [rendered_of_value hname hv] at hraw
      exact .inr ⟨hname, v, hv, hraw⟩
  · rintro (hkept | ⟨hname, v, hv, hraw⟩)
    · exact hkept values fun n => Iff.rfl
    · rw [rendered_of_value hname hv, hraw]

instance (d : Delimiters) (values : Values) (p : Placeholder) : Decidable (p.Kept d values) :=
  decidable_of_iff _ kept_iff.symm

end Placeholder

/-! ## Names in the order of their first placeholders -/

-- the recursion is on the declarations that are left of the rest, not on the rest itself
theorem map_name_firstOfEachName : ∀ es : List Expression,
    (firstOfEachName es).map (fun e => String.ofList e.name) =
      (es.map fun e => String.ofList e.name).eraseDups
  | [] => rfl
  | e :: es => by
      have hother : (fun later : Expression => later.name != e.name) =
          (fun n => !n == String.ofList e.name) ∘ fun later => String.ofList later.name := by
        funext later
        by_cases hname : later.name = e.name
        · simp [hname]
        · have hofList : String.ofList later.name ≠ String.ofList e.name :=
            fun h => hname (String.ofList_injective h)
          simp [bne, beq_eq_false_iff_ne.2 hname, beq_eq_false_iff_ne.2 hofList]
      rw [firstOfEachName, filter_firstOfEachName (fun n => n != e.name), List.map_cons,
        map_name_firstOfEachName (es.filter fun later => later.name != e.name), List.map_cons,
        List.eraseDups_cons, List.filter_map, hother]
termination_by es => es.length
decreasing_by exact Nat.lt_succ_of_le (List.length_filter_le _ es)

namespace Catalog

/-- A name is missing at its first placeholder exactly if it is at any other. -/
theorem missingNames_eq_eraseDups (d : Delimiters) (l : Lexicon) (content : String)
    (values : Values) :
    (Catalog.parse d l content).missingNames values =
      (((named (declarations d content)).filter fun e => !values.contains (String.ofList e.name)).map
        fun e => String.ofList e.name).eraseDups := by
  have hnames : (Catalog.parse d l content).names =
      (firstOfEachName (named (declarations d content))).map fun e => String.ofList e.name := by
    rw [names_of_entries (Catalog.reads_parse d l content).entries, List.map_map]
    rfl
  rw [missingNames, hnames, List.filter_map, ← map_name_firstOfEachName,
    ← filter_firstOfEachName fun n => !values.contains (String.ofList n)]
  rfl

theorem notMem_missingNames {c : Catalog} {n : String} (h : n ∈ values) :
    n ∉ c.missingNames values := by
  intro hmissing
  obtain ⟨-, habsent⟩ := List.mem_filter.1 hmissing
  rw [Std.ExtTreeMap.contains_iff_mem.2 h] at habsent
  cases habsent

end Catalog

/-- Declarations of absent names come from the placeholders that are left, those without a name
aside. -/
theorem map_name_filter_named (d : Delimiters) (content : String) (values : Values) :
    ((named (declarations d content)).filter fun e => !values.contains (String.ofList e.name)).map
        (fun e => String.ofList e.name) =
      (((placeholders d content).filter fun p => decide (p.Kept d values)).map
        (Placeholder.name d)).filter fun n => n ≠ "" := by
  rw [named, declarations, List.filter_map, List.filter_map, List.map_map, List.filter_map,
    List.filter_filter, List.filter_filter]
  refine congrArg _ (List.filter_congr ?_)
  -- one test reads the name off the declaration, the other one looks at the placeholder
  intro p _
  by_cases hname : p.name d = ""
  · simp [hname, Placeholder.name_eq_empty_iff.1 hname]
  · have hnamed : (p.declaration d).name.isEmpty = false :=
      List.isEmpty_eq_false_iff.2 (mt Placeholder.name_eq_empty_iff.2 hname)
    have hkept : decide (p.Kept d values) =
        !values.contains (String.ofList (p.declaration d).name) := by
      rw [Bool.eq_iff_iff, decide_eq_true_eq, Placeholder.kept_iff, or_iff_right hname,
        Bool.not_eq_true', ← Bool.not_eq_true, Std.ExtTreeMap.contains_iff_mem]
      rfl
    simp [hname, hnamed, hkept]

/-! ## Missing names -/

/-- Rendering fills the places of the placeholders one by one.  The names without a value are the
names of those that it leaves as they are written, each once, in the order of their first
placeholders.  So none is missing exactly if only placeholders without a name are left; and null is a
value, which leaves neither the name missing nor its placeholders.  In the rendered text a placeholder
can be seen unchanged for one other reason only, which is that its value has the same text. -/
theorem missingNames_eq_kept (d : Delimiters) (l : Lexicon) (content : String) (values : Values) :
    let missing := (Catalog.parse d l content).missingNames values
    let kept := (placeholders d content).filter fun p => decide (p.Kept d values)
    (∀ others : Values, render d content others =
        splice content (Placeholder.rendered d others) 0 (placeholders d content)) ∧
      missing = ((kept.map (Placeholder.name d)).filter fun n => n ≠ "").eraseDups ∧
      (missing = [] ↔ ∀ p ∈ kept, p.name d = "") ∧
      (∀ n : String, values[n]? = some .null → n ∉ missing ∧
        ∀ p ∈ placeholders d content, p.name d = n → n ≠ "" →
          p ∉ kept ∧ p.rendered d values = "") ∧
      ∀ p ∈ placeholders d content, p.rendered d values = p.raw ↔
        p ∈ kept ∨
          p.name d ≠ "" ∧ ∃ v, values[p.name d]? = some v ∧ String.ofList v.text = p.raw := by
  intro missing kept
  have hmissing : missing = ((kept.map (Placeholder.name d)).filter fun n => n ≠ "").eraseDups := by
    rw [← map_name_filter_named]
    exact Catalog.missingNames_eq_eraseDups d l content values
  have hkept : ∀ p ∈ placeholders d content, p ∈ kept ↔ p.Kept d values := by
    intro p hp
    rw [List.mem_filter, decide_eq_true_eq, and_iff_right hp]
  refine ⟨fun others => render_eq_splice_rendered d others content, hmissing, ?_, ?_, ?_⟩
  · rw [hmissing, List.eq_nil_iff_forall_not_mem]
    simp only [List.mem_eraseDups, List.mem_filter, List.mem_map, decide_eq_true_eq, not_and,
      not_not]
    constructor
    · intro hnone p hp
      exact hnone _ ⟨p, hp, rfl⟩
    · rintro hnameless n ⟨p, hp, rfl⟩
      exact hnameless p hp
  · intro n hnull
    have hmem : n ∈ values := by
      rw [Std.ExtTreeMap.mem_iff_isSome_getElem?, hnull]
      rfl
    refine ⟨Catalog.notMem_missingNames hmem, ?_⟩
    rintro p hp rfl hname
    refine ⟨?_, ?_⟩
    · intro hleft
      rcases Placeholder.kept_iff.1 ((hkept p hp).1 hleft) with hempty | habsent
      · exact hname hempty
      · exact habsent hmem
    · rw [Placeholder.rendered_of_value hname hnull, Value.text]
  · intro p hp
    rw [hkept p hp, Placeholder.rendered_eq_raw_iff]

example :
    let d : Delimiters := ⟨['<'], ['>'], [':'], by simp, by simp, by simp⟩
    (Catalog.parse d .empty "<:text>< b :text><a:text><b:number><c:text>").missingNames
      ((∅ : Values).insert "c" .null) = ["b", "a"] := by
  decide +kernel

end FormTemplate
