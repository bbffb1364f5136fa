import FormTemplate.Collection
import FormTemplate.Proofs.Catalog.Index

/-!
# Collection — value sets completed with defaults

`Catalog.collect` goes through the variables and looks each of them up in the value set it is
extending.  Since no name comes twice, what it adds never gets in the way of a later look-up, and the
result can be said in terms of the provided values alone.

* `Variable.Unfilled` — a required variable with neither a value nor a default;
* `Collected.Completes` — what holds of a collection when the variables `xs` have been read;
* `Collected.Completes.exists_add`, `exists_foldlM_add` — one variable, and all of them, keep it so;
* `foldlM_add_eq_error`, `collect_eq_error_iff` — the first unfilled variable ends the collection;
* `collect_eq_withDefaults` — what collecting gives, and that doing it again changes nothing.
-/

namespace FormTemplate

variable {provided : Values} {xs ys : List Variable} {x : Variable}

theorem Dictionary.mem_iff_exists_getElem? {α : Type} {d : Dictionary α} {n : String} :
    n ∈ d ↔ ∃ v, d[n]? = some v := by
  rw [Std.ExtTreeMap.mem_iff_isSome_getElem?, Option.isSome_iff_exists]

namespace Variable

/-- A required variable that has neither a value nor a default. -/
def Unfilled (provided : Values) (x : Variable) : Prop :=
  x.required = true ∧ x.default = none ∧ x.name ∉ provided

instance (provided : Values) (x : Variable) : Decidable (x.Unfilled provided) :=
  decidable_of_iff (x.required = true ∧ x.default.isNone = true ∧ x.name ∉ provided) <| by
    rw [Unfilled, Option.isNone_iff_eq_none]

/-- Whether a variable has a default and no value. -/
def takesDefault (provided : Values) (x : Variable) : Bool :=
  x.default.isSome && !provided.contains x.name

/-- More values fill no less. -/
theorem Unfilled.of_subset {more : Values} (hmore : ∀ n : String, n ∈ provided → n ∈ more)
    (h : x.Unfilled more) : x.Unfilled provided :=
  ⟨h.1, h.2.1, fun hmem => h.2.2 (hmore _ hmem)⟩

theorem find?_name_eq_none {n : String} (hnew : n ∉ xs.map Variable.name) :
    xs.find? (fun y => y.name == n) = none := by
  refine List.find?_eq_none.2 ?_
  intro y hy hname
  exact hnew (List.mem_map.2 ⟨y, hy, by simpa using hname⟩)

end Variable

/-! ## One variable -/

namespace Collected

/-- The collection after the variables `xs`. -/
structure Completes (provided : Values) (xs : List Variable) (c : Collected) : Prop where
  values : ∀ n, c.values[n]? =
    (provided[n]?).or ((xs.find? fun x => x.name == n).bind Variable.default)
  prompted : c.prompted = []
  defaulted : c.defaulted = (xs.filter (Variable.takesDefault provided)).map Variable.name

namespace Completes

variable {c : Collected}

/-- A name that has not been read yet has a value only if one was provided. -/
theorem getElem?_of_new (h : Completes provided xs c) (hnew : x.name ∉ xs.map Variable.name) :
    c.values[x.name]? = provided[x.name]? := by
  rw [h.values, Variable.find?_name_eq_none hnew, Option.bind_none, Option.or_none]

theorem contains_of_new (h : Completes provided xs c) (hnew : x.name ∉ xs.map Variable.name) :
    c.values.contains x.name = provided.contains x.name := by
  rw [Std.ExtTreeMap.contains_eq_isSome_getElem?, Std.ExtTreeMap.contains_eq_isSome_getElem?,
    h.getElem?_of_new hnew]

/-- A variable that brings no value leaves the collection as it is. -/
theorem skip (h : Completes provided xs c)
    (hskip : x.name ∈ provided ∨ x.default = none) : Completes provided (xs ++ [x]) c := by
  have htakes : x.takesDefault provided = false := by
    rcases hskip with hmem | hdefault
    · simp [Variable.takesDefault, hmem]
    · simp [Variable.takesDefault, hdefault]
  refine ⟨?_, h.prompted, ?_⟩
  · intro n
    rw [h.values, List.find?_append]
    cases hfind : xs.find? (fun y => y.name == n) with
    | some y => rfl
    | none =>
        by_cases hname : x.name = n
        · rcases hskip with hmem | hdefault
          · obtain ⟨v, hv⟩ := Dictionary.mem_iff_exists_getElem?.1 (hname ▸ hmem)
            simp [hv]
          · simp [hname, hdefault]
        · simp [hname]
  · rw [h.defaulted, List.filter_append]
    simp [htakes]

/-- A variable that takes its default. -/
theorem insert (h : Completes provided xs c) {v : Value} (hnew : x.name ∉ xs.map Variable.name)
    (habsent : x.name ∉ provided) (hdefault : x.default = some v) :
    Completes provided (xs ++ [x])
      { c with values := c.values.insert x.name v, defaulted := c.defaulted ++ [x.name] } := by
  refine ⟨?_, h.prompted, ?_⟩
  · intro n
    rw [Std.ExtTreeMap.getElem?_insert, List.find?_append]
    by_cases hname : x.name = n
    · -- no earlier variable has this name, so its default is the one that is found
      have hold : provided[n]? = none := by
        rw [← hname]
        exact Std.ExtTreeMap.getElem?_eq_none habsent
      have hfind := Variable.find?_name_eq_none (hname ▸ hnew)
      simp [hname, hold, hfind, hdefault]
    · have hcompare : compare x.name n ≠ .eq := by
        simpa using hname
      rw [if_neg hcompare, h.values]
      cases hfind : xs.find? (fun y => y.name == n) <;> simp [hname]
  · have hcontains : provided.contains x.name = false :=
      Bool.eq_false_iff.2 fun hmem => habsent (Std.ExtTreeMap.contains_iff_mem.1 hmem)
    have htakes : x.takesDefault provided = true := by
      simp [Variable.takesDefault, hdefault, hcontains]
    rw [List.filter_append, List.map_append, h.defaulted]
    simp [htakes]

theorem exists_add (h : Completes provided xs c) (hnew : x.name ∉ xs.map Variable.name)
    (hfilled : ¬ x.Unfilled provided) :
    ∃ r, c.add x = .ok r ∧ Completes provided (xs ++ [x]) r := by
  unfold add
  rw [h.contains_of_new hnew]
  by_cases hmem : x.name ∈ provided
  · exact ⟨c, by simp [hmem], h.skip (.inl hmem)⟩
  · cases hdefault : x.default with
    | some v => exact ⟨_, by simp [hmem], h.insert hnew hmem hdefault⟩
    | none =>
        have hoptional : x.required = false := by
          simpa [Variable.Unfilled, hdefault, hmem] using hfilled
        exact ⟨c, by simp [hmem, hoptional], h.skip (.inr hdefault)⟩

theorem add_eq_error (h : Completes provided xs c) (hnew : x.name ∉ xs.map Variable.name)
    (hunfilled : x.Unfilled provided) : c.add x = .error ⟨x.name⟩ := by
  obtain ⟨hrequired, hdefault, hmem⟩ := hunfilled
  unfold add
  rw [h.contains_of_new hnew]
  simp [hmem, hdefault, hrequired]

end Completes

/-! ## All variables -/

theorem completes_start (provided : Values) : Completes provided [] { values := provided } :=
  ⟨fun n => by simp, rfl, rfl⟩

theorem exists_foldlM_add {c : Collected} (h : Completes provided xs c)
    (hnodup : ((xs ++ ys).map Variable.name).Nodup) (hfilled : ∀ y ∈ ys, ¬ y.Unfilled provided) :
    ∃ r, ys.foldlM add c = .ok r ∧ Completes provided (xs ++ ys) r := by
  induction ys generalizing xs c with
  | nil => exact ⟨c, rfl, by simpa using h⟩
  | cons y ys ih =>
      -- names are not repeated, so what earlier variables added does not hide this one
      have hnew : y.name ∉ xs.map Variable.name := by
        intro hmem
        rw [List.map_append, List.map_cons] at hnodup
        exact (List.nodup_append.1 hnodup).2.2 _ hmem _ List.mem_cons_self rfl
      obtain ⟨r, hr, hstep⟩ := h.exists_add hnew (hfilled y List.mem_cons_self)
      have hrest := ih hstep (by simpa using hnodup)
        fun z hz => hfilled z (List.mem_cons_of_mem y hz)
      simpa [List.foldlM_cons, hr, bind, Except.bind] using hrest

/-- The variables before the first unfilled one are read without harm; it then ends the collection,
whatever comes behind it. -/
theorem foldlM_add_eq_error (hnodup : ((xs ++ x :: ys).map Variable.name).Nodup)
    (hfilled : ∀ y ∈ xs, ¬ y.Unfilled provided) (hunfilled : x.Unfilled provided) :
    (xs ++ x :: ys).foldlM add { values := provided } = .error ⟨x.name⟩ := by
  rw [List.map_append, List.map_cons] at hnodup
  have hparts := List.nodup_append.1 hnodup
  have hbefore : (([] ++ xs).map Variable.name).Nodup := by simpa using hparts.1
  obtain ⟨r, hr, hreads⟩ := exists_foldlM_add (completes_start provided) hbefore hfilled
  have hnew : x.name ∉ xs.map Variable.name := fun hmem =>
    hparts.2.2 _ hmem _ List.mem_cons_self rfl
  have herror := Completes.add_eq_error (by simpa using hreads) hnew hunfilled
  simp [List.foldlM_append, hr, herror, bind, Except.bind]

end Collected

/-! ## Collecting for a template -/

theorem exists_first_unfilled (h : ¬ ∀ x ∈ xs, ¬ x.Unfilled provided) :
    ∃ before x after, xs = before ++ x :: after ∧
      (∀ y ∈ before, ¬ y.Unfilled provided) ∧ x.Unfilled provided := by
  have hany : (xs.find? fun x => decide (x.Unfilled provided)).isSome = true := by
    simpa using h
  obtain ⟨x, hx⟩ := Option.isSome_iff_exists.1 hany
  obtain ⟨hunfilled, before, after, hxs, hbefore⟩ := List.find?_eq_some_iff_append.1 hx
  refine ⟨before, x, after, hxs, ?_, of_decide_eq_true hunfilled⟩
  intro y hy
  simpa using hbefore y hy

/-- The first required variable of a catalog with neither a value nor a default. -/
def Catalog.firstUnfilled? (c : Catalog) (provided : Values) : Option Variable :=
  c.entries.find? fun x => x.Unfilled provided

namespace Catalog.Reads

variable {l : Lexicon} {c : Catalog} {es : List Expression}

/-- Without unfilled variables collecting succeeds. -/
theorem exists_collect (h : Reads l es c) (hfilled : ∀ x ∈ c.entries, ¬ x.Unfilled provided) :
    ∃ r, c.collect provided = .ok r ∧ Collected.Completes provided c.entries r := by
  have hnodup : (([] ++ c.entries).map Variable.name).Nodup := by
    simpa [names] using h.nodup_names
  simpa [collect] using
    Collected.exists_foldlM_add (Collected.completes_start provided) hnodup hfilled

theorem collect_eq_error (h : Reads l es c) {before after : List Variable}
    (hentries : c.entries = before ++ x :: after)
    (hfilled : ∀ y ∈ before, ¬ y.Unfilled provided) (hunfilled : x.Unfilled provided) :
    c.collect provided = .error ⟨x.name⟩ := by
  rw [collect, hentries]
  refine Collected.foldlM_add_eq_error ?_ hfilled hunfilled
  rw [← hentries]
  exact h.nodup_names

/-- What collecting fails with tells of the first variable that nothing fills. -/
theorem collect_eq_error_iff (h : Reads l es c) {e : MissingRequired} :
    c.collect provided = .error e ↔ (c.firstUnfilled? provided).map Variable.name = some e.name := by
  cases hfind : c.firstUnfilled? provided with
  | none =>
      have hfilled : ∀ x ∈ c.entries, ¬ x.Unfilled provided := by
        simpa [firstUnfilled?] using hfind
      obtain ⟨r, hr, -⟩ := h.exists_collect hfilled
      simp [hr]
  | some x =>
      obtain ⟨hunfilled, before, after, hentries, hbefore⟩ := List.find?_eq_some_iff_append.1 hfind
      have herror := h.collect_eq_error hentries
        (fun y hy => by simpa using hbefore y hy) (of_decide_eq_true hunfilled)
      cases e
      simp [herror]

/-- Every variable with a default has a value after collecting. -/
theorem default_eq_none (h : Reads l es c) {r : Collected}
    (hr : Collected.Completes provided c.entries r) {n : String} (hn : r.values[n]? = none) :
    (c.get? n).bind Variable.default = none := by
  rw [hr.values, h.find?_name_eq, Option.or_eq_none_iff] at hn
  exact hn.2

theorem takesDefault_collected (h : Reads l es c) {r : Collected}
    (hr : Collected.Completes provided c.entries r) (hx : x ∈ c.entries) :
    x.takesDefault r.values = false := by
  have hget : c.get? x.name = some x := h.get?_eq_some_iff.2 ⟨hx, rfl⟩
  cases hn : r.values[x.name]? with
  | some v =>
      have hmem : r.values.contains x.name = true :=
        Std.ExtTreeMap.contains_iff_mem.2 (Dictionary.mem_iff_exists_getElem?.2 ⟨v, hn⟩)
      simp [Variable.takesDefault, hmem]
  | none =>
      have hnone : x.default = none := by
        simpa [hget] using h.default_eq_none hr hn
      simp [Variable.takesDefault, hnone]

/-- A collection is complete, so collecting from it adds nothing. -/
theorem collect_collected (h : Reads l es c) {r : Collected}
    (hfilled : ∀ x ∈ c.entries, ¬ x.Unfilled provided)
    (hr : Collected.Completes provided c.entries r) :
    c.collect r.values = .ok { values := r.values } := by
  have hkept : ∀ n : String, n ∈ provided → n ∈ r.values := by
    intro n hn
    obtain ⟨v, hv⟩ := Dictionary.mem_iff_exists_getElem?.1 hn
    refine Dictionary.mem_iff_exists_getElem?.2 ⟨v, ?_⟩
    rw [hr.values, hv, Option.some_or]
  have hfilled' : ∀ x ∈ c.entries, ¬ x.Unfilled r.values := by
    rintro x hx ⟨hrequired, hnone, habsent⟩
    exact hfilled x hx ⟨hrequired, hnone, fun hmem => habsent (hkept _ hmem)⟩
  -- the second collection is described by the first one's values
  obtain ⟨s, hs, hcompletes⟩ := h.exists_collect hfilled'
  have hvalues : s.values = r.values := by
    refine Std.ExtTreeMap.ext_getElem? ?_
    intro n
    rw [hcompletes.values, h.find?_name_eq]
    cases hn : r.values[n]? with
    | some v => rfl
    | none => rw [h.default_eq_none hr hn, Option.or_none]
  have hdefaulted : s.defaulted = [] := by
    rw [hcompletes.defaulted, List.map_eq_nil_iff, List.filter_eq_nil_iff]
    intro x hx htakes
    rw [h.takesDefault_collected hr hx] at htakes
    cases htakes
  have hprompted := hcompletes.prompted
  rw [hs]
  cases s
  simp_all

end Catalog.Reads

/-- Collecting for a template fails exactly if some variable is required and has neither a value nor a
default, and then names the first such variable.  Otherwise it gives the provided values, none of them
changed, together with the defaults of those variables that have one and no value; these are listed in
the order of the template, each once.  Collecting again from the result adds nothing. -/
theorem collect_eq_withDefaults (d : Delimiters) (l : Lexicon) (content : String)
    (provided : Values) :
    let c := Catalog.parse d l content
    (∀ e, c.collect provided = .error e ↔
      ∃ before x after, c.entries = before ++ x :: after ∧
        (∀ y ∈ before, ¬ y.Unfilled provided) ∧ x.Unfilled provided ∧ e = ⟨x.name⟩) ∧
      ((∀ x ∈ c.entries, ¬ x.Unfilled provided) →
        ∃ r, c.collect provided = .ok r ∧
          (∀ n, r.values[n]? = (provided[n]?).or ((c.get? n).bind Variable.default)) ∧
          (∀ (n : String) (v : Value), provided[n]? = some v → r.values[n]? = some v) ∧
          r.defaulted = (c.entries.filter (Variable.takesDefault provided)).map Variable.name ∧
          r.defaulted.Nodup ∧
          r.prompted = [] ∧
          c.collect r.values = .ok { values := r.values, prompted := [], defaulted := [] }) := by
  intro c
  have hreads := Catalog.reads_parse d l content
  constructor
  · intro e
    constructor
    · intro herror
      by_cases hfilled : ∀ x ∈ c.entries, ¬ x.Unfilled provided
      · obtain ⟨r, hr, -⟩ := hreads.exists_collect hfilled
        rw [hr] at herror
        cases herror
      · obtain ⟨before, x, after, hentries, hbefore, hunfilled⟩ := exists_first_unfilled hfilled
        have hcollect := hreads.collect_eq_error hentries hbefore hunfilled
        rw [hcollect] at herror
        cases herror
        exact ⟨before, x, after, hentries, hbefore, hunfilled, rfl⟩
    · rintro ⟨before, x, after, hentries, hbefore, hunfilled, rfl⟩
      exact hreads.collect_eq_error hentries hbefore hunfilled
  · intro hfilled
    obtain ⟨r, hr, hcompletes⟩ := hreads.exists_collect hfilled
    have hvalues : ∀ n, r.values[n]? = (provided[n]?).or ((c.get? n).bind Variable.default) := by
      intro n
      rw [hcompletes.values, hreads.find?_name_eq]
    refine ⟨r, hr, hvalues, ?_, hcompletes.defaulted, ?_, hcompletes.prompted,
      hreads.collect_collected hfilled hcompletes⟩
    · intro n v hv
      rw [hvalues, hv, Option.some_or]
    · rw [hcompletes.defaulted]
      exact hreads.nodup_names.sublist (List.filter_sublist.map Variable.name)

end FormTemplate
