import Mathlib.Data.List.Nodup
import FormTemplate.Proofs.Catalog.Declarations

/-!
# Index — a catalog lists the first declaration of each name

`Catalog.parse` reads the placeholders one by one and keeps the list of variables and the index of
their names in step.

* `Catalog.Reads` — what holds of a catalog when the placeholders read so far declare `es`: its
  variables are those of the first declarations, and its index is the inverse of their order;
* `Catalog.Reads.add`, `Catalog.reads_foldl` — one placeholder, and all of them, keep it so;
* `parse_eq_firstOfEachName` — what a template's catalog is, and how names are found in it.
-/

namespace FormTemplate

variable {d : Delimiters} {l : Lexicon}

namespace Catalog

/-- The catalog after placeholders that declare `es`. -/
structure Reads (l : Lexicon) (es : List Expression) (c : Catalog) : Prop where
  entries : c.entries = (firstOfEachName (named es)).map (Variable.declare l)
  index : ∀ (n : String) (i : Nat), c.index[n]? = some i ↔ c.names[i]? = some n

theorem getElem?_concat_eq_some_iff {xs : List String} {x n : String} {i : Nat} :
    (xs ++ [x])[i]? = some n ↔ xs[i]? = some n ∨ i = xs.length ∧ n = x := by
  rw [List.getElem?_append]
  split
  case isTrue hlt =>
    simp only [Nat.ne_of_lt hlt, false_and, or_false]
  case isFalse hge =>
    have hnone : xs[i]? = none := List.getElem?_eq_none (by omega)
    rw [hnone, List.getElem?_singleton]
    by_cases hi : i = xs.length
    · simp [hi, eq_comm]
    · simp [hi, show i - xs.length ≠ 0 by omega]

theorem names_of_entries {c : Catalog} {es : List Expression}
    (h : c.entries = es.map (Variable.declare l)) :
    c.names = (es.map Expression.name).map String.ofList := by
  simp [names, h, Variable.name_declare]

/-! ## One more placeholder -/

namespace Reads

variable {c : Catalog} {es : List Expression}

theorem mem_index_iff (h : Reads l es c) {n : String} : n ∈ c.index ↔ n ∈ c.names := by
  rw [Std.ExtTreeMap.mem_iff_isSome_getElem?, Option.isSome_iff_exists, List.mem_iff_getElem?]
  simp only [h.index]

/-- What holds of whatever is declared holds of the variables of a catalog. -/
theorem forall_entries (h : Reads l es c) {P : Variable → Prop}
    (hdeclare : ∀ e, P (Variable.declare l e)) : ∀ x ∈ c.entries, P x := by
  intro x hx
  rw [h.entries] at hx
  obtain ⟨e, -, rfl⟩ := List.mem_map.1 hx
  exact hdeclare e

theorem nodup_names (h : Reads l es c) : c.names.Nodup := by
  rw [names_of_entries h.entries]
  exact (nodup_map_name_firstOfEachName _).map fun _ _ => String.ofList_injective

/-- The index never points behind the last variable. -/
theorem get?_eq_getElem? (h : Reads l es c) {n : String} {i : Nat} (hi : c.index[n]? = some i) :
    i < c.entries.length ∧ c.get? n = c.entries[i]? := by
  have hname := (h.index n i).1 hi
  have hlt : i < c.names.length := (List.getElem?_eq_some_iff.1 hname).1
  exact ⟨by simpa [names] using hlt, by simp [get?, hi]⟩

theorem get?_eq_some_iff (h : Reads l es c) {n : String} {v : Variable} :
    c.get? n = some v ↔ v ∈ c.entries ∧ v.name = n := by
  constructor
  · intro hget
    rcases Option.bind_eq_some_iff.1 hget with ⟨i, hi, hv⟩
    have hname := (h.index n i).1 hi
    simp only [names, List.getElem?_map, hv, Option.map_some, Option.some.injEq] at hname
    exact ⟨List.mem_of_getElem? hv, hname⟩
  · rintro ⟨hv, rfl⟩
    rcases List.mem_iff_getElem?.1 hv with ⟨i, hi⟩
    have hname : c.names[i]? = some v.name := by
      simp [names, hi]
    rw [(h.get?_eq_getElem? ((h.index v.name i).2 hname)).2, hi]

theorem contains_iff (h : Reads l es c) {n : String} :
    c.contains n = true ↔ ∃ x ∈ c.entries, x.name = n := by
  rw [contains, Std.ExtTreeMap.contains_iff_mem, h.mem_index_iff, names, List.mem_map]

/-- The variable that the index gives is the only one of its name. -/
theorem filter_name_eq (h : Reads l es c) (n : String) :
    c.entries.filter (fun x => x.name == n) = (c.get? n).toList := by
  cases hget : c.get? n with
  | none =>
      refine List.filter_eq_nil_iff.2 ?_
      intro x hx hname
      have hsome : c.get? n = some x := h.get?_eq_some_iff.2 ⟨hx, by simpa using hname⟩
      simp [hget] at hsome
  | some x =>
      have hfilter : ∀ y ∈ c.entries.filter (fun y => y.name == n), y = x := by
        intro y hy
        obtain ⟨hmem, hname⟩ := List.mem_filter.1 hy
        have hsome : c.get? n = some y := h.get?_eq_some_iff.2 ⟨hmem, by simpa using hname⟩
        exact Option.some.inj (hsome.symm.trans hget)
      have hx : x ∈ c.entries.filter (fun y => y.name == n) := by
        obtain ⟨hmem, hname⟩ := h.get?_eq_some_iff.1 hget
        exact List.mem_filter.2 ⟨hmem, by simpa using hname⟩
      have hnodup : (c.entries.filter fun y => y.name == n).Nodup :=
        (List.Nodup.of_map Variable.name h.nodup_names).filter _
      exact List.perm_singleton.1 ((List.perm_ext_iff_of_nodup hnodup (List.nodup_singleton x)).2
        fun y => ⟨fun hy => List.mem_singleton.2 (hfilter y hy),
          fun hy => List.mem_singleton.1 hy ▸ hx⟩)

theorem find?_name_eq (h : Reads l es c) (n : String) :
    c.entries.find? (fun x => x.name == n) = c.get? n := by
  rw [← List.head?_filter, h.filter_name_eq]
  cases c.get? n <;> rfl

theorem mem_names_iff (h : Reads l es c) {name : List Char} :
    String.ofList name ∈ c.names ↔ name ∈ (named es).map Expression.name := by
  rw [names_of_entries h.entries, List.mem_map_of_injective, mem_map_name_firstOfEachName]
  exact fun _ _ => String.ofList_injective

/-- A declaration without a name, or of a name that is taken, leaves the catalog as it is. -/
theorem skip (h : Reads l es c) {e : Expression}
    (hskip : e.name = [] ∨ String.ofList e.name ∈ c.names) : Reads l (es ++ [e]) c := by
  refine ⟨?_, h.index⟩
  rw [h.entries]
  by_cases hname : e.name = []
  · simp [named, hname]
  · have hmem : e.name ∈ (named es).map Expression.name :=
      h.mem_names_iff.1 (hskip.resolve_left hname)
    have hnamed : named (es ++ [e]) = named es ++ [e] := by
      simp [named, hname]
    rw [hnamed, firstOfEachName_concat, if_pos hmem, List.append_nil]

/-- A new name gets the next place. -/
theorem append (h : Reads l es c) {e : Expression} (hname : e.name ≠ [])
    (hnew : String.ofList e.name ∉ c.names) :
    Reads l (es ++ [e])
      { c with entries := c.entries ++ [Variable.declare l e],
               index := c.index.insert (Variable.declare l e).name c.entries.length } := by
  constructor
  · have hmem : e.name ∉ (named es).map Expression.name := fun hmem =>
      hnew (h.mem_names_iff.2 hmem)
    have hnamed : named (es ++ [e]) = named es ++ [e] := by
      simp [named, hname]
    rw [hnamed, firstOfEachName_concat, if_neg hmem, List.map_append, h.entries]
    rfl
  · intro n i
    have hlen : c.entries.length = c.names.length := by
      simp [names]
    have hnames : Catalog.names
        { c with entries := c.entries ++ [Variable.declare l e],
                 index := c.index.insert (Variable.declare l e).name c.entries.length } =
        c.names ++ [String.ofList e.name] := by
      simp [names, Variable.name_declare]
    rw [hnames, hlen, Variable.name_declare, Std.ExtTreeMap.getElem?_insert,
      getElem?_concat_eq_some_iff, ← h.index]
    by_cases hn : String.ofList e.name = n
    · -- the old part of the index does not have the new name
      have hnone : c.index[n]? ≠ some i := by
        intro hsome
        have hold := List.mem_of_getElem? ((h.index n i).1 hsome)
        exact hnew (hn ▸ hold)
      simp [hn, hnone, eq_comm]
    · have hcompare : compare (String.ofList e.name) n ≠ .eq := by
        simpa using hn
      simp [hcompare, Ne.symm hn]

theorem add (h : Reads l es c) (p : Placeholder) :
    Reads l (es ++ [p.declaration d]) (c.add d l p) := by
  unfold Catalog.add
  by_cases hname : (p.declaration d).name = []
  · simpa [hname] using h.skip (.inl hname)
  · by_cases hmem : String.ofList (p.declaration d).name ∈ c.index
    · simpa [hname, hmem] using h.skip (.inr (h.mem_index_iff.1 hmem))
    · simpa [hname, hmem] using h.append hname fun hmem' => hmem (h.mem_index_iff.2 hmem')

end Reads

/-! ## All placeholders -/

theorem reads_start (content : String) : Reads l [] (start content) := by
  refine ⟨rfl, ?_⟩
  intro n i
  simp [start, names]

theorem reads_foldl {c : Catalog} {es : List Expression} (h : Reads l es c)
    (ps : List Placeholder) :
    Reads l (es ++ ps.map (Placeholder.declaration d)) (ps.foldl (add d l) c) := by
  induction ps generalizing c es with
  | nil => simpa using h
  | cons p ps ih => simpa using ih (h.add p)

theorem reads_parse (d : Delimiters) (l : Lexicon) (content : String) :
    Reads l (declarations d content) (parse d l content) := by
  have hfold := reads_foldl (d := d) (reads_start (l := l) content) (placeholders d content)
  simpa [declarations, parse] using hfold

theorem content_foldl (c : Catalog) (ps : List Placeholder) :
    (ps.foldl (add d l) c).content = c.content := by
  induction ps generalizing c with
  | nil => rfl
  | cons p ps ih =>
      rw [List.foldl_cons, ih]
      simp only [add]
      split
      · rfl
      · split <;> rfl

theorem contains_parse {content n : String} :
    (parse d l content).contains n = true ↔ n ≠ "" ∧ ∃ p ∈ placeholders d content, p.name d = n := by
  have hreads := reads_parse d l content
  have hmem : n ∈ (parse d l content).names ↔
      n.toList ∈ (named (declarations d content)).map Expression.name := by
    rw [← hreads.mem_names_iff, String.ofList_toList]
  rw [contains, Std.ExtTreeMap.contains_iff_mem, hreads.mem_index_iff, hmem]
  simp only [named, declarations, List.mem_map, List.mem_filter]
  constructor
  · rintro ⟨e, ⟨⟨p, hp, rfl⟩, hne⟩, hname⟩
    refine ⟨?_, p, hp, by rw [Placeholder.name, hname, String.ofList_toList]⟩
    rintro rfl
    simp [hname] at hne
  · rintro ⟨hne, p, hp, rfl⟩
    refine ⟨p.declaration d, ⟨⟨p, hp, rfl⟩, ?_⟩, by simp [Placeholder.name]⟩
    rw [ne_eq, Placeholder.name_eq_empty_iff] at hne
    simp [hne]

end Catalog

/-! ## The catalog of a template -/

/-- The catalog of a template has its text and, for every name that a placeholder declares, the
variable of the first declaration, in the order of these declarations.  No name comes twice, the
index sends each name to its place and nothing else anywhere, so a look-up gives the variable of that
name; and what is declared for a name that was declared before makes no difference. -/
theorem parse_eq_firstOfEachName (d : Delimiters) (l : Lexicon) (content : String) :
    let c := Catalog.parse d l content
    c.content = content ∧
      c.entries = (firstOfEachName (named (declarations d content))).map (Variable.declare l) ∧
      c.names.Nodup ∧
      (∀ n, c.contains n = true ↔ n ≠ "" ∧ ∃ p ∈ placeholders d content, p.name d = n) ∧
      (∀ (n : String) (i : Nat), c.index[n]? = some i ↔ c.names[i]? = some n) ∧
      (∀ (n : String) (i : Nat), c.index[n]? = some i →
        i < c.entries.length ∧ c.get? n = c.entries[i]?) ∧
      (∀ n v, c.get? n = some v ↔ v ∈ c.entries ∧ v.name = n) ∧
      (∀ content' es₁ later later' es₂,
        declarations d content = es₁ ++ later ++ es₂ →
        declarations d content' = es₁ ++ later' ++ es₂ →
        (∀ e ∈ later ++ later', e.name ∈ es₁.map Expression.name) →
          (Catalog.parse d l content').entries = c.entries) := by
  intro c
  have hreads := Catalog.reads_parse d l content
  refine ⟨Catalog.content_foldl _ _, hreads.entries, hreads.nodup_names,
    fun n => Catalog.contains_parse, hreads.index, fun n i => hreads.get?_eq_getElem?,
    fun n v => hreads.get?_eq_some_iff, ?_⟩
  intro content' es₁ later later' es₂ hes hes' hlater
  have hfirst : ∀ xs : List Expression, (∀ e ∈ xs, e ∈ later ++ later') →
      firstOfEachName (named (es₁ ++ xs ++ es₂)) = firstOfEachName (named (es₁ ++ es₂)) :=
    fun xs hxs => firstOfEachName_named_middle fun e he => hlater e (hxs e he)
  rw [(Catalog.reads_parse d l content').entries, hreads.entries, hes, hes',
    hfirst later fun e he => List.mem_append_left _ he,
    hfirst later' fun e he => List.mem_append_right _ he]

end FormTemplate
