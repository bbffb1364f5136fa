import FormTemplate.Proofs.Lexicon.Layering
import FormTemplate.Proofs.Supply.Assignments

/-!
# Merging — values of arguments over values of a file

Arguments assign texts to names.  Names are trimmed, so that arguments which are written differently
can be about one name, and the last of them counts.  A single argument that assigns nothing spoils
the rest, and the first such argument is told.

* `Values.Assigns`, `Values.assignment?_eq_some_iff` — what an argument assigns, as it is written;
* `Values.LastAssigned`, `Values.Merges` — the last argument about a name, and the values of a file
  with those of arguments over them;
* `Values.Merges.insert`, `Values.exists_supplied` — one more argument, and so any number of them;
* `Values.Merges.unique` — nothing is left open;
* `Values.supplied_append_union` — arguments behind others override what those supply;
* `supplied_merges` — what is supplied, and when nothing is.
-/

namespace FormTemplate
namespace Values

/-! ## What arguments say -/

/-- The argument gives a text to a name: the name stands before the first equals sign, with any
blanks around it, and the text is all that follows the sign. -/
def Assigns (argument name text : String) : Prop :=
  ∃ front : String, argument = front ++ "=" ++ text ∧ '=' ∉ front.toList ∧
    Text.blankString front = false ∧ Text.trimString front = name

/-- The last of the arguments about a name gives it a text. -/
def LastAssigned (arguments : List String) (name text : String) : Prop :=
  ∃ before argument after, arguments = before ++ argument :: after ∧
    Assigns argument name text ∧ ∀ a ∈ after, ∀ text', ¬ Assigns a name text'

/-- The values of a file with those of arguments over them. -/
structure Merges (filed : Values) (arguments : List String) (values : Values) : Prop where
  assigned : ∀ name text, LastAssigned arguments name text →
    values[name]? = some (.string text)
  kept : ∀ name, (∀ argument ∈ arguments, ∀ text, ¬ Assigns argument name text) →
    values[name]? = filed[name]?

/-- The values of the file, if there is one. -/
def filed (fs : Files) (file : Option String) : Except SupplyFault Values :=
  match file with
  | none => .ok ∅
  | some path => ofFile fs path

variable {argument name name' text text' : String} {arguments : List String} {values : Values}

/-! ## One argument -/

theorem assignment?_eq_some_iff {v : Value} :
    assignment? argument = some (name, v) ↔
      ∃ text, Assigns argument name text ∧ v = .string text := by
  constructor
  · intro h
    obtain ⟨⟨front, text⟩, hsplit, hentry⟩ := Option.bind_eq_some_iff.1 h
    obtain ⟨hargument, hequals⟩ := Text.splitFirst_char_eq_some_iff.1 hsplit
    simp only [Text.isEmpty_trim, Option.ite_none_left_eq_some] at hentry
    obtain ⟨hblank, hentry⟩ := hentry
    cases hentry
    refine ⟨String.ofList text, ⟨String.ofList front, ?_, ?_, ?_, ?_⟩, rfl⟩
    · rw [← String.toList_inj, hargument]
      simp [String.toList_append]
    · rwa [String.toList_ofList]
    · rw [Text.blankString, String.toList_ofList]
      simpa using hblank
    · rw [Text.trimString, String.toList_ofList]
  · rintro ⟨text, ⟨front, rfl, hequals, hblank, rfl⟩, rfl⟩
    rw [assignment?_append hequals, Text.isEmpty_trim,
      if_neg (by simpa [Text.blankString] using hblank)]
    rfl

theorem assignment?_eq_none_iff :
    assignment? argument = none ↔ ∀ name text, ¬ Assigns argument name text := by
  constructor
  · intro hnone name text h
    rw [assignment?_eq_some_iff.2 ⟨text, h, rfl⟩] at hnone
    cases hnone
  · intro hassigns
    rw [Option.eq_none_iff_forall_ne_some]
    rintro ⟨name, v⟩ hentry
    obtain ⟨text, h, -⟩ := assignment?_eq_some_iff.1 hentry
    exact hassigns name text h

theorem Assigns.unique (h : Assigns argument name text) (h' : Assigns argument name' text') :
    name = name' ∧ text = text' := by
  have hentry := assignment?_eq_some_iff.2 ⟨text, h, rfl⟩
  rw [assignment?_eq_some_iff.2 ⟨text', h', rfl⟩] at hentry
  simpa [eq_comm] using hentry

/-! ## Arguments in their order -/

/-- The last argument decides about its name, and leaves other names to those before it. -/
theorem lastAssigned_concat_iff :
    LastAssigned (arguments ++ [argument]) name text ↔
      Assigns argument name text ∨
        (∀ text', ¬ Assigns argument name text') ∧ LastAssigned arguments name text := by
  constructor
  · rintro ⟨before, a, after, harguments, ha, hafter⟩
    -- the argument in question is the last of all, or the last of all comes behind it
    rcases List.eq_nil_or_concat after with rfl | ⟨rest, last, rfl⟩
    · obtain ⟨-, rfl⟩ : arguments = before ∧ argument = a := by
        simpa using List.append_inj' harguments rfl
      exact .inl ha
    · rw [List.concat_eq_append, ← List.cons_append, ← List.append_assoc] at harguments
      obtain ⟨rfl, rfl⟩ : arguments = before ++ a :: rest ∧ argument = last := by
        simpa using List.append_inj' harguments rfl
      refine .inr ⟨hafter argument (by simp), before, a, rest, rfl, ha, ?_⟩
      exact fun b hb => hafter b (by simp [hb])
  · rintro (h | ⟨hother, before, a, after, rfl, ha, hafter⟩)
    · exact ⟨arguments, argument, [], rfl, h, by simp⟩
    · refine ⟨before, a, after ++ [argument], by simp, ha, ?_⟩
      intro b hb
      rcases List.mem_append.1 hb with hb | hb
      · exact hafter b hb
      · rwa [List.mem_singleton.1 hb]

/-- Of the arguments about a name one is the last. -/
theorem exists_lastAssigned (h : ∃ argument ∈ arguments, ∃ text, Assigns argument name text) :
    ∃ text, LastAssigned arguments name text := by
  induction arguments using List.reverseRecOn with
  | nil =>
      obtain ⟨_, hmem, -⟩ := h
      cases hmem
  | append_singleton front argument ih =>
      simp only [lastAssigned_concat_iff]
      by_cases hlast : ∃ text, Assigns argument name text
      · exact hlast.imp fun text => .inl
      · have hother : ∀ text, ¬ Assigns argument name text := not_exists.1 hlast
        obtain ⟨a, ha, text, htext⟩ := h
        rcases List.mem_append.1 ha with ha | ha
        · obtain ⟨text', hlast'⟩ := ih ⟨a, ha, text, htext⟩
          exact ⟨text', .inr ⟨hother, hlast'⟩⟩
        · rw [List.mem_singleton.1 ha] at htext
          exact absurd htext (hother text)

/-! ## Merged values -/

namespace Merges

variable {file : Values}

theorem nil (file : Values) : Merges file [] file := by
  refine ⟨?_, fun _ _ => rfl⟩
  rintro name text ⟨before, a, after, hnil, -⟩
  simp at hnil

/-- One argument more. -/
theorem insert (h : Merges file arguments values) (hargument : Assigns argument name text) :
    Merges file (arguments ++ [argument]) (values.insert name (.string text)) := by
  constructor
  case assigned =>
      intro name' text' hlast
      -- an insertion under one name is seen under that name alone
      rcases lastAssigned_concat_iff.1 hlast with hsame | ⟨hother, hbefore⟩
      · obtain ⟨rfl, rfl⟩ := hargument.unique hsame
        exact Std.ExtTreeMap.getElem?_insert_self
      · have hne : name ≠ name' := by
          rintro rfl
          exact hother text hargument
        rw [Std.ExtTreeMap.getElem?_insert, if_neg (by simpa using hne)]
        exact h.assigned name' text' hbefore
  case kept =>
      intro name' hother
      have hne : name ≠ name' := by
        rintro rfl
        exact hother argument (by simp) text hargument
      rw [Std.ExtTreeMap.getElem?_insert, if_neg (by simpa using hne)]
      exact h.kept name' fun a ha => hother a (List.mem_append_left _ ha)

/-- What is assigned and what is kept make up all values. -/
theorem unique (h : Merges file arguments values) {values' : Values}
    (h' : Merges file arguments values') : values' = values := by
  apply Std.ExtTreeMap.ext_getElem?
  intro name
  by_cases hname : ∃ argument ∈ arguments, ∃ text, Assigns argument name text
  · obtain ⟨text, hlast⟩ := exists_lastAssigned hname
    rw [h.assigned name text hlast, h'.assigned name text hlast]
  · have hother : ∀ argument ∈ arguments, ∀ text, ¬ Assigns argument name text := by
      simpa using hname
    rw [h.kept name hother, h'.kept name hother]

end Merges

/-! ## Supplied values -/

variable {fs : Files} {file : Option String} {fromFile : Values}

theorem supplied_nil (fs : Files) (file : Option String) : supplied fs file [] = filed fs file := by
  cases file with
  | none => rfl
  | some path =>
      simp only [supplied, filed]
      cases ofFile fs path <;> rfl

/-- With arguments that all assign something, values are supplied. -/
theorem exists_supplied (hfile : filed fs file = .ok fromFile)
    (harguments : ∀ argument ∈ arguments, ∃ name text, Assigns argument name text) :
    ∃ values, supplied fs file arguments = .ok values ∧ Merges fromFile arguments values := by
  induction arguments using List.reverseRecOn with
  | nil => exact ⟨fromFile, (supplied_nil fs file).trans hfile, .nil fromFile⟩
  | append_singleton front argument ih =>
      obtain ⟨values, hvalues, hmerges⟩ := ih fun a ha => harguments a (List.mem_append_left _ ha)
      obtain ⟨name, text, hargument⟩ := harguments argument (by simp)
      have hentry := assignment?_eq_some_iff.2 ⟨text, hargument, rfl⟩
      exact ⟨_, supplied_concat_of_some hvalues hentry, hmerges.insert hargument⟩

/-- An argument that assigns nothing is told, whatever comes after it. -/
theorem supplied_eq_error (hfile : filed fs file = .ok fromFile)
    (harguments : ∀ argument ∈ arguments, ∃ name text, Assigns argument name text)
    (hargument : ∀ name text, ¬ Assigns argument name text) (after : List String) :
    supplied fs file (arguments ++ argument :: after) = .error (.badAssignment argument) := by
  -- what comes before is supplied, so that no other argument can be told
  obtain ⟨values, hvalues, -⟩ := exists_supplied hfile harguments
  have hbad := supplied_concat_of_none hvalues (assignment?_eq_none_iff.2 hargument)
  rw [List.append_cons, supplied_append, hbad]
  rfl

theorem override_eq_union (values : Values) (entries : List (String × Value)) :
    values.override entries = values ∪ Dictionary.ofEntries entries := by
  apply Std.ExtTreeMap.ext_getElem?
  intro name
  rw [Dictionary.getElem?_override_eq_or, Std.ExtTreeMap.getElem?_union]

/-- More arguments override what was supplied by what they supply alone. -/
theorem supplied_append_union (fs : Files) (file : Option String) (arguments more : List String) :
    supplied fs file (arguments ++ more) =
      (supplied fs file arguments).bind fun values =>
        (supplied fs none more).map fun given => values ∪ given := by
  have hone : ∀ values : Values, (assignments more).map values.override =
      (supplied fs none more).map fun given => values ∪ given := by
    intro values
    simp only [supplied, ofAssignments]
    cases assignments more with
    | error fault => rfl
    | ok entries => exact congrArg Except.ok (override_eq_union values entries)
  simp only [supplied_append, hone]

end Values

/-- Arguments are merged over the values of a file: each name that arguments are about has the text
that the last of them assigns, and the others are those of the file.  With an argument that assigns
nothing there are no values, and the first such argument is told.  Arguments behind others override
what those supply. -/
theorem supplied_merges {fs : Files} {file : Option String} {fromFile : Values}
    (hfile : Values.filed fs file = .ok fromFile) (arguments : List String) :
    ((∀ a ∈ arguments, ∃ name text, Values.Assigns a name text) →
        ∃ values, Values.supplied fs file arguments = .ok values ∧
          Values.Merges fromFile arguments values ∧
          ∀ values', Values.Merges fromFile arguments values' → values' = values) ∧
      (∀ before bad after, arguments = before ++ bad :: after →
        (∀ a ∈ before, ∃ name text, Values.Assigns a name text) →
        (∀ name text, ¬ Values.Assigns bad name text) →
        Values.supplied fs file arguments = .error (.badAssignment bad)) ∧
      ∀ more, Values.supplied fs file (arguments ++ more) =
        (Values.supplied fs file arguments).bind fun values =>
          (Values.supplied fs none more).map fun given => values ∪ given := by
  refine ⟨?_, ?_, Values.supplied_append_union fs file arguments⟩
  · intro harguments
    obtain ⟨values, hvalues, hmerges⟩ := Values.exists_supplied hfile harguments
    exact ⟨values, hvalues, hmerges, fun values' => hmerges.unique⟩
  · rintro before bad after rfl hbefore hbad
    exact Values.supplied_eq_error hfile hbefore hbad after

/-- Two arguments that are written differently are about one name of the file, and the second one has
a text with an equals sign; the other name of the file keeps its value. -/
theorem supplied_merges_score :
    let fs : Files := ⟨[(["v"], .text "\x7b\"score\":95,\"name\":\"x\"\x7d")], []⟩
    let fromFile : Values :=
      Dictionary.ofEntries [("name", .string "x"), ("score", .number (.integer 95))]
    Values.filed fs (some "v") = .ok fromFile ∧
      ∃ values, Values.supplied fs (some "v") [" score =80", "score=7=7"] = .ok values ∧
        values["score"]? = some (.string "7=7") ∧ values["name"]? = fromFile["name"]? := by
  intro fs fromFile
  have hread : fs.read "v" = .ok "\x7b\"score\":95,\"name\":\"x\"\x7d" := by decide +kernel
  have hmapping : Values.mapping? false "\x7b\"score\":95,\"name\":\"x\"\x7d" =
      some [("name", .string "x"), ("score", .number (.integer 95))] := by
    cbv
  have hyaml : Values.isYamlPath "v" = false := by decide +kernel
  have hfile : Values.filed fs (some "v") = .ok fromFile := by
    simp only [Values.filed, Values.ofFile, hread, hyaml, hmapping]
    rfl
  have hfirst : Values.Assigns " score =80" "score" "80" :=
    ⟨" score ", by decide, by decide, by decide, by decide⟩
  have hlast : Values.Assigns "score=7=7" "score" "7=7" :=
    ⟨"score", by decide, by decide, by decide, by decide⟩
  obtain ⟨values, hvalues, hmerges, -⟩ := (supplied_merges hfile [" score =80", "score=7=7"]).1
    (by simpa using ⟨⟨_, _, hfirst⟩, _, _, hlast⟩)
  refine ⟨hfile, values, hvalues, ?_, ?_⟩
  · exact hmerges.assigned _ _ ⟨[" score =80"], _, [], rfl, hlast, by simp⟩
  · refine hmerges.kept _ ?_
    simp only [List.mem_cons, List.not_mem_nil, or_false, forall_eq_or_imp, forall_eq]
    refine ⟨fun text h => ?_, fun text h => ?_⟩
    · exact absurd (hfirst.unique h).1 (by decide)
    · exact absurd (hlast.unique h).1 (by decide)

end FormTemplate
