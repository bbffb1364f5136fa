import FormTemplate.Catalog.Json
import FormTemplate.Proofs.Catalog.WellFormed
import FormTemplate.Proofs.Validation.InvertedBounds

/-!
# Serialization — catalogs written as JSON and read back

Fields that hold nothing are left out when a variable is written, and have to come back as nothing
when it is read.  Null cannot stand for a default, and bounds are read as integers of 64 bits; both
hold of what a template declares.

* `Json.lookup_toList_map`, `Json.optional?_map` — a field that may be missing, found and read;
* `Constraints.record?_toJson`, `Variable.record?_toJson` — the fields of a written record;
* `Constraints.ofJson?_toJson`, `Variable.ofJson?_toJson` — what is read back from them;
* `Catalog.lookup_variableMap` — the map of a catalog's variables is its look-up by name;
* `parse_toJson_lossless` — a written catalog has all of the template, and its variables can be read.
-/

namespace FormTemplate

/-! ## Fields -/

namespace Json

variable {α : Type}

/-- Looking for a name among the fields of a record, at one that is there or not. -/
theorem lookup_toList_map (o : Option α) (f : α → Value) (name n : String) :
    List.lookup n ((o.map fun a => (name, f a)).toList) = if n = name then o.map f else none := by
  cases o with
  | none => simp
  | some a =>
      by_cases hn : n = name
      · simp [hn]
      · simp [List.lookup_cons, hn, beq_eq_false_iff_ne.2 hn]

/-- A field that may be missing is read back, since nothing is written as null. -/
theorem optional?_map {read? : Value → Option α} {write : α → Value} {o : Option α}
    (hread : ∀ a, o = some a → read? (write a) = some a)
    (hnull : ∀ a, o = some a → write a ≠ .null) : optional? read? (o.map write) = some o := by
  cases o with
  | none => rfl
  | some a =>
      have hwritten := hnull a rfl
      have hvalue := hread a rfl
      rw [Option.map_some]
      cases hwrite : write a <;> simp_all [optional?]

theorem asList?_map_string (ts : List String) :
    asList? asString? (.array (ts.map .string)) = some ts := by
  rw [asList?]
  induction ts with
  | nil => rfl
  | cons t ts ih =>
      rw [List.map_cons, List.mapM_cons, ih]
      rfl

end Json

theorem FieldType.ofJson?_id (type : FieldType) : ofJson? (.string type.id) = some type := by
  cases type <;> decide

/-! ## Constraints -/

namespace Constraints

theorem record?_toJson (c : Constraints) :
    Json.record? ["min", "max", "pattern", "message"] c.toJson =
      some [c.min.map fun n => .number (.integer n), c.max.map fun n => .number (.integer n),
        c.pattern.map .string, c.message.map .string] := by
  simp [Json.record?, toJson, Value.field?, List.lookup_append, Json.lookup_toList_map]

theorem ofJson?_toJson {c : Constraints} (h : c.BoundsFit) : ofJson? c.toJson = some c := by
  have hmin : Json.optional? Json.asInt64? (c.min.map fun n => .number (.integer n)) =
      some c.min := by
    refine Json.optional?_map ?_ ?_
    · intro n hn
      simp [Json.asInt64?, h n (.inl hn)]
    · simp
  have hmax : Json.optional? Json.asInt64? (c.max.map fun n => .number (.integer n)) =
      some c.max := by
    refine Json.optional?_map ?_ ?_
    · intro n hn
      simp [Json.asInt64?, h n (.inr hn)]
    · simp
  have htext : ∀ o : Option String,
      Json.optional? Json.asString? (o.map Value.string) = some o := fun o =>
    Json.optional?_map (fun _ _ => rfl) (by simp)
  simp [ofJson?, c.record?_toJson, hmin, hmax, htext]

end Constraints

/-! ## Variables -/

namespace Variable

theorem record?_toJson (x : Variable) :
    Json.record? fieldNames x.toJson =
      some [some (.string x.name), some (.string x.label), some (.string x.type.id),
        some (.bool x.required), x.default,
        if x.options = [] then none else some (.array (x.options.map .string)),
        some (.string x.hint), x.validation.map Constraints.toJson] := by
  have hdefault : ∀ n, List.lookup n ((x.default.map fun v => ("defaultValue", v)).toList) =
      if n = "defaultValue" then x.default else none := by
    intro n
    simpa using Json.lookup_toList_map x.default id "defaultValue" n
  by_cases hoptions : x.options = []
  · simp [Json.record?, toJson, fieldNames, Value.field?, List.lookup_append, List.lookup_cons,
      Json.lookup_toList_map, hdefault, hoptions]
  · simp [Json.record?, toJson, fieldNames, Value.field?, List.lookup_append, List.lookup_cons,
      Json.lookup_toList_map, hdefault, hoptions]

/-- A variable is read back as it was, unless null is its default or a bound is too large. -/
theorem ofJson?_toJson {x : Variable} (hbounds : x.BoundsFit)
    (hdefault : ∀ v, x.default = some v → v ≠ .null) : ofJson? x.toJson = some x := by
  have hread : Json.optional? some x.default = some x.default := by
    have hmap := @Json.optional?_map Value some id x.default (fun _ _ => rfl) hdefault
    simpa using hmap
  have hvalidation : Json.optional? Constraints.ofJson? (x.validation.map Constraints.toJson) =
      some x.validation :=
    Json.optional?_map (fun c hc => Constraints.ofJson?_toJson (hbounds c hc))
      (by simp [Constraints.toJson])
  have hoptions : Json.defaulted? (Json.asList? Json.asString?) []
      (if x.options = [] then none else some (.array (x.options.map .string))) =
        some x.options := by
    by_cases hempty : x.options = []
    · simp [Json.defaulted?, hempty]
    · simp [Json.defaulted?, hempty, Json.asList?_map_string]
  have hrequired : Json.defaulted? Json.asBool? false (some (.bool x.required)) =
      some x.required := rfl
  simp [ofJson?, x.record?_toJson, Json.asString?, FieldType.ofJson?_id, hread, hrequired, hoptions,
    hvalidation]

/-- The fields that are left out of a variable's JSON. -/
theorem exists_fields_toJson (x : Variable) :
    ∃ fields, x.toJson = .object fields ∧
      Value.field? "defaultValue" fields = x.default ∧
      (Value.field? "options" fields = none ↔ x.options = []) ∧
      Value.field? "validation" fields = x.validation.map Constraints.toJson := by
  have hrecord := x.record?_toJson
  refine ⟨_, rfl, ?_⟩
  simp only [toJson, Json.record?, fieldNames, List.map_cons, Option.some.injEq,
    List.cons.injEq] at hrecord
  obtain ⟨-, -, -, -, hdefault, hoptions, -, hvalidation, -⟩ := hrecord
  refine ⟨hdefault, ?_, hvalidation⟩
  rw [hoptions]
  by_cases hempty : x.options = [] <;> simp [hempty]

end Variable

/-! ## Catalogs -/

namespace Catalog

variable {l : Lexicon} {c : Catalog} {es : List Expression}

/-- The variables of a catalog under their names. -/
def variableMap (c : Catalog) : List (String × Value) :=
  c.entries.map fun x => (x.name, x.toJson)

theorem mapM_ofJson?_toJson {xs : List Variable}
    (h : ∀ x ∈ xs, Variable.ofJson? x.toJson = some x) :
    (xs.map Variable.toJson).mapM Variable.ofJson? = some xs := by
  induction xs with
  | nil => rfl
  | cons x xs ih =>
      have hrest := ih fun y hy => h y (List.mem_cons_of_mem x hy)
      rw [List.map_cons, List.mapM_cons, h x List.mem_cons_self, hrest]
      rfl

theorem map_fst_variableMap (c : Catalog) : c.variableMap.map Prod.fst = c.names := by
  simp [variableMap, names]

theorem lookup_map_name (xs : List Variable) (n : String) :
    (xs.map fun x => (x.name, x.toJson)).lookup n =
      (xs.find? fun x => x.name == n).map Variable.toJson := by
  induction xs with
  | nil => rfl
  | cons x xs ih =>
      rw [List.map_cons, List.lookup_cons, ih, List.find?_cons]
      by_cases hn : n = x.name
      · simp [hn]
      · simp [beq_eq_false_iff_ne.2 hn, beq_eq_false_iff_ne.2 (Ne.symm hn)]

namespace Reads

theorem lookup_variableMap (h : Reads l es c) (n : String) :
    c.variableMap.lookup n = (c.get? n).map Variable.toJson := by
  rw [variableMap, lookup_map_name, h.find?_name_eq]

theorem ofJson?_toJson (h : Reads l es c) {x : Variable} (hx : x ∈ c.entries) :
    Variable.ofJson? x.toJson = some x := by
  refine Variable.ofJson?_toJson (h.boundsFit hx) ?_
  -- null is vacant, and no default is
  rintro v hv rfl
  have hof := (h.forall_entries (Variable.ruled_declare l) x hx).default_of _ hv
  exact Bool.noConfusion hof.isVacant_eq_false

end Reads
end Catalog

/-- Every variable of a template's catalog is read back from its JSON as it was, although a default,
choices and constraints are left out of it where there are none.  The JSON of the catalog has the
template's text, its variables in their order, and an object that has the same JSON of each under its
name: the names are those of the catalog in its order, none of them twice. -/
theorem parse_toJson_lossless (d : Delimiters) (l : Lexicon) (content : String) :
    let c := Catalog.parse d l content
    (∀ x ∈ c.entries, Variable.ofJson? x.toJson = some x ∧
        ∃ fields, x.toJson = .object fields ∧
          Value.field? "defaultValue" fields = x.default ∧
          (Value.field? "options" fields = none ↔ x.options = []) ∧
          Value.field? "validation" fields = x.validation.map Constraints.toJson) ∧
      ∃ listed byName,
        c.toJson = .object
          [("content", .string content), ("variables", .array listed),
            ("variableMap", .object byName)] ∧
          listed = c.entries.map Variable.toJson ∧
          listed.mapM Variable.ofJson? = some c.entries ∧
          byName.map Prod.fst = c.names ∧
          (byName.map Prod.fst).Nodup ∧
          byName.map Prod.snd = listed ∧
          ∀ n, byName.lookup n = (c.get? n).map Variable.toJson := by
  intro c
  have hreads := Catalog.reads_parse d l content
  have hcontent : c.content = content := Catalog.content_foldl _ _
  refine ⟨?_, c.entries.map Variable.toJson, c.variableMap, ?_, rfl,
    Catalog.mapM_ofJson?_toJson fun x hx => hreads.ofJson?_toJson hx, c.map_fst_variableMap, ?_, ?_,
    hreads.lookup_variableMap⟩
  · intro x hx
    exact ⟨hreads.ofJson?_toJson hx, x.exists_fields_toJson⟩
  · rw [Catalog.toJson, hcontent]
    rfl
  · rw [c.map_fst_variableMap]
    exact hreads.nodup_names
  · simp [Catalog.variableMap]

end FormTemplate
