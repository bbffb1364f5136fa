import FormTemplate.Placeholder
import FormTemplate.Proofs.Text.Cutting
import FormTemplate.Proofs.Text.Span

/-!
# Reading — which placeholder stands at the front of a text

A text may read as a placeholder in several ways: blanks can belong to the padding or to the body,
and a body may run past a closing delimiter.  `hole?` finds the best of them.

* `Hole.Reads` — one way to read the front of a text as a placeholder;
* `Hole.Outranks` — most blanks before the body, then the shortest body, then most blanks after it;
* `hole?_eq_some_iff` — `hole?` gives the reading that outranks all others;
* `hole?_eq_none_iff` — it gives none only where there is no reading.

The order of ranks is the order in which the three parts of the search take their chances, so each
of `closing?`, `body?` and `inner?` has a lemma that it succeeds on every reading of its own part
with one that is at least as good.
-/

namespace FormTemplate

open Text (allBlank dropPrefix? utf8Length)

variable {d : Delimiters}

/-! ## Readings and their ranks -/

/-- `t` begins with the placeholder `h`, and `rest` follows it. -/
structure Hole.Reads (d : Delimiters) (t : List Char) (h : Hole) (rest : List Char) : Prop where
  text : t = h.raw d ++ rest
  before_blank : allBlank h.before = true
  body_ne : h.body ≠ []
  body_line : '\n' ∉ h.body
  after_blank : allBlank h.after = true

/-- The first hole is at least as good a reading as the second one. -/
def Hole.Outranks (h g : Hole) : Prop :=
  utf8Length g.before < utf8Length h.before ∨
    utf8Length g.before = utf8Length h.before ∧
      (utf8Length h.body < utf8Length g.body ∨
        utf8Length h.body = utf8Length g.body ∧ utf8Length g.after ≤ utf8Length h.after)

theorem Hole.Outranks.cons {h g : Hole} (c : Char) (hg : h.Outranks g) :
    Hole.Outranks { h with before := c :: h.before } { g with before := c :: g.before } := by
  simpa [Hole.Outranks] using hg

/-- Only one reading outranks all others. -/
theorem Hole.Reads.eq_of_outranks {t rest rest' : List Char} {h g : Hole}
    (hh : h.Reads d t rest) (hg : g.Reads d t rest') (hgh : h.Outranks g) (hhg : g.Outranks h) :
    h = g ∧ rest = rest' := by
  have htext : h.before ++ (h.body ++ (h.after ++ (d.closing ++ rest))) =
      g.before ++ (g.body ++ (g.after ++ (d.closing ++ rest'))) := by
    have hraw := hh.text.symm.trans hg.text
    simpa [Hole.raw, Hole.inner] using hraw
  have hsizes : utf8Length h.before = utf8Length g.before ∧
      utf8Length h.body = utf8Length g.body ∧ utf8Length h.after = utf8Length g.after := by
    simp only [Hole.Outranks] at hgh hhg
    omega
  rcases Text.append_eq_of_utf8Length htext hsizes.1 with ⟨hbefore, htext⟩
  rcases Text.append_eq_of_utf8Length htext hsizes.2.1 with ⟨hbody, htext⟩
  rcases Text.append_eq_of_utf8Length htext hsizes.2.2 with ⟨hafter, htext⟩
  refine ⟨?_, List.append_cancel_left htext⟩
  cases h
  cases g
  simp_all

/-! ## Blanks before a closing delimiter -/

theorem allBlank_of_closing? {t blanks rest : List Char}
    (h : closing? d t = some (blanks, rest)) : allBlank blanks = true := by
  have here {t blanks : List Char}
      (h : ((dropPrefix? d.closing t).map fun rest => (([] : List Char), rest))
        = some (blanks, rest)) : allBlank blanks = true := by
    rcases Option.map_eq_some_iff.1 h with ⟨r, -, he⟩
    cases he
    rfl
  induction t generalizing blanks with
  | nil => exact here (by simpa [closing?] using h)
  | cons c t ih =>
      rw [closing?] at h
      split at h
      case isTrue hc =>
        rcases Option.or_eq_some_iff.1 h with h | ⟨-, h⟩
        · rcases Option.map_eq_some_iff.1 h with ⟨⟨b, r⟩, hb, he⟩
          cases he
          simpa [allBlank, hc] using ih hb
        · exact here h
      case isFalse => exact here h

/-- The blanks found before a closing delimiter are at least as many as any that stand there. -/
theorem exists_closing? (blanks rest : List Char) (hblank : allBlank blanks = true) :
    ∃ blanks' rest', closing? d (blanks ++ (d.closing ++ rest)) = some (blanks', rest') ∧
      utf8Length blanks ≤ utf8Length blanks' := by
  induction blanks with
  | nil =>
      -- the delimiter itself may begin with a blank, which then counts as padding of a later one
      have hdrop := Text.dropPrefix?_append d.closing rest
      cases hclose : d.closing ++ rest with
      | nil => simp [d.closing_ne] at hclose
      | cons c t =>
          rw [hclose] at hdrop
          cases hnext : closing? d t with
          | none => exact ⟨[], rest, by simp [closing?, hnext, hdrop], by simp⟩
          | some found =>
              by_cases hc : Text.isBlank c
              · exact ⟨c :: found.1, found.2, by simp [closing?, hc, hnext], by simp⟩
              · exact ⟨[], rest, by simp [closing?, hc, hdrop], by simp⟩
  | cons c blanks ih =>
      have hc : Text.isBlank c = true ∧ allBlank blanks = true := by
        simpa [allBlank] using hblank
      rcases ih hc.2 with ⟨blanks', rest', hfound, hle⟩
      exact ⟨c :: blanks', rest', by simp [closing?, hc.1, hfound], by simpa using hle⟩

/-! ## Bodies -/

theorem reads_of_body? {t body blanks rest : List Char}
    (h : body? d t = some (body, blanks, rest)) :
    body ≠ [] ∧ '\n' ∉ body ∧ allBlank blanks = true := by
  induction t generalizing body with
  | nil => simp [body?] at h
  | cons c t ih =>
      rw [body?] at h
      split at h
      case isTrue => cases h
      case isFalse hc =>
        rcases Option.or_eq_some_iff.1 h with h | ⟨-, h⟩
        · rcases Option.map_eq_some_iff.1 h with ⟨⟨b, r⟩, hb, he⟩
          cases he
          exact ⟨by simp, by simpa using Ne.symm hc, allBlank_of_closing? hb⟩
        · rcases Option.map_eq_some_iff.1 h with ⟨⟨b, w, r⟩, hb, he⟩
          cases he
          rcases ih hb with ⟨-, hline, hblank⟩
          exact ⟨by simp, by simp [Ne.symm hc, hline], hblank⟩

/-- The body found is at most as long as any that stands there, with the blanks after it. -/
theorem exists_body? (body blanks rest : List Char) (hne : body ≠ []) (hline : '\n' ∉ body)
    (hblank : allBlank blanks = true) :
    ∃ body' blanks' rest',
      body? d (body ++ (blanks ++ (d.closing ++ rest))) = some (body', blanks', rest') ∧
        (utf8Length body' < utf8Length body ∨
          utf8Length body' = utf8Length body ∧ utf8Length blanks ≤ utf8Length blanks') := by
  induction body with
  | nil => exact absurd rfl hne
  | cons c body ih =>
      have hc : c ≠ '\n' ∧ '\n' ∉ body := by
        simpa [eq_comm] using hline
      cases hclose : closing? d (body ++ (blanks ++ (d.closing ++ rest))) with
      | some found =>
          refine ⟨[c], found.1, found.2, by simp [body?, hc.1, hclose], ?_⟩
          cases body with
          | nil =>
              rcases exists_closing? (d := d) blanks rest hblank with ⟨b, r, hfound, hle⟩
              have heq : found = (b, r) := by
                simpa [hfound] using hclose.symm
              exact .inr ⟨rfl, by simpa [heq] using hle⟩
          | cons e body =>
              have hpos := e.utf8Size_pos
              exact .inl (by simp only [Text.utf8Length_cons, Text.utf8Length_nil]; omega)
      | none =>
          have hne' : body ≠ [] := by
            rintro rfl
            rcases exists_closing? (d := d) blanks rest hblank with ⟨b, r, hfound, -⟩
            simp [hfound] at hclose
          rcases ih hne' hc.2 with ⟨body', blanks', rest', hfound, hrank⟩
          refine ⟨c :: body', blanks', rest', by simp [body?, hc.1, hclose, hfound], ?_⟩
          simpa using hrank

/-! ## The text between the delimiters -/

theorem reads_of_inner? {t rest : List Char} {h : Hole} (hfound : inner? d t = some (h, rest)) :
    h.Reads d (d.opening ++ t) rest := by
  have here {t : List Char} {h : Hole}
      (hb : ((body? d t).map fun found => ((⟨[], found.1, found.2.1⟩ : Hole), found.2.2))
        = some (h, rest)) :
      allBlank h.before = true ∧ h.body ≠ [] ∧ '\n' ∉ h.body ∧ allBlank h.after = true := by
    rcases Option.map_eq_some_iff.1 hb with ⟨⟨b, w, r⟩, hbody, he⟩
    cases he
    exact ⟨rfl, reads_of_body? hbody⟩
  have hparts : allBlank h.before = true ∧ h.body ≠ [] ∧ '\n' ∉ h.body ∧
      allBlank h.after = true := by
    induction t generalizing h with
    | nil => exact here (by simpa [inner?] using hfound)
    | cons c t ih =>
        rw [inner?] at hfound
        split at hfound
        case isTrue hc =>
          rcases Option.or_eq_some_iff.1 hfound with hfound | ⟨-, hfound⟩
          · rcases Option.map_eq_some_iff.1 hfound with ⟨⟨g, r⟩, hg, he⟩
            cases he
            rcases ih hg with ⟨hblank, hparts⟩
            exact ⟨by simpa [allBlank, hc] using hblank, hparts⟩
          · exact here hfound
        case isFalse => exact here hfound
  rcases hparts with ⟨hbefore, hne, hline, hafter⟩
  have htext := eq_of_inner? hfound
  exact ⟨by simp [htext, Hole.raw], hbefore, hne, hline, hafter⟩

/-- What is found between the delimiters outranks whatever stands there. -/
theorem exists_inner? (g : Hole) (rest : List Char) (hbefore : allBlank g.before = true)
    (hne : g.body ≠ []) (hline : '\n' ∉ g.body) (hafter : allBlank g.after = true) :
    ∃ h rest', inner? d (g.inner ++ (d.closing ++ rest)) = some (h, rest') ∧ h.Outranks g := by
  rcases g with ⟨before, body, after⟩
  simp only [Hole.inner, List.append_assoc] at *
  induction before with
  | nil =>
      rcases exists_body? (d := d) body after rest hne hline hafter with ⟨b, w, r, hfound, hrank⟩
      cases htext : body ++ (after ++ (d.closing ++ rest)) with
      | nil => simp [hne] at htext
      | cons c t =>
          rw [htext] at hfound
          cases hnext : inner? d t with
          | none =>
              exact ⟨⟨[], b, w⟩, r, by simp [inner?, hnext, hfound], .inr ⟨rfl, hrank⟩⟩
          | some found =>
              by_cases hc : Text.isBlank c
              · -- the body begins with a blank that can belong to the padding
                have hpos := c.utf8Size_pos
                refine ⟨{ found.1 with before := c :: found.1.before }, found.2,
                  by simp [inner?, hc, hnext], .inl ?_⟩
                simp only [Text.utf8Length_cons, Text.utf8Length_nil]
                omega
              · exact ⟨⟨[], b, w⟩, r, by simp [inner?, hc, hfound], .inr ⟨rfl, hrank⟩⟩
  | cons c before ih =>
      have hc : Text.isBlank c = true ∧ allBlank before = true := by
        simpa [allBlank] using hbefore
      rcases ih hc.2 with ⟨h, rest', hfound, hrank⟩
      exact ⟨{ h with before := c :: h.before }, rest', by simp [inner?, hc.1, hfound],
        hrank.cons c⟩

/-! ## The placeholder at the front -/

theorem reads_of_hole? {t rest : List Char} {h : Hole} (hfound : hole? d t = some (h, rest)) :
    h.Reads d t rest := by
  rcases Option.bind_eq_some_iff.1 hfound with ⟨u, hopen, hinner⟩
  rw [Text.dropPrefix?_eq_some hopen]
  exact reads_of_inner? hinner

theorem Hole.Reads.exists_hole? {t rest : List Char} {g : Hole} (hg : g.Reads d t rest) :
    ∃ h rest', hole? d t = some (h, rest') ∧ h.Outranks g := by
  have htext : t = d.opening ++ (g.inner ++ (d.closing ++ rest)) := by
    simpa [Hole.raw] using hg.text
  rcases exists_inner? (d := d) g rest hg.before_blank hg.body_ne hg.body_line hg.after_blank with
    ⟨h, rest', hfound, hrank⟩
  exact ⟨h, rest', by simp [hole?, htext, hfound], hrank⟩

theorem hole?_eq_some_iff {t rest : List Char} {h : Hole} :
    hole? d t = some (h, rest) ↔
      h.Reads d t rest ∧ ∀ g rest', g.Reads d t rest' → h.Outranks g := by
  constructor
  · intro hfound
    refine ⟨reads_of_hole? hfound, ?_⟩
    intro g rest' hg
    rcases hg.exists_hole? with ⟨h', r, hfound', hrank⟩
    cases hfound.symm.trans hfound'
    exact hrank
  · rintro ⟨hreads, hbest⟩
    rcases hreads.exists_hole? with ⟨g, r, hfound, hrank⟩
    have hg := reads_of_hole? hfound
    rcases hreads.eq_of_outranks hg (hbest g r hg) hrank with ⟨rfl, rfl⟩
    exact hfound

theorem hole?_eq_none_iff {t : List Char} :
    hole? d t = none ↔ ∀ h rest, ¬ Hole.Reads d t h rest := by
  constructor
  · intro hnone h rest hreads
    rcases hreads.exists_hole? with ⟨g, r, hfound, -⟩
    simp [hnone] at hfound
  · intro hno
    cases hfound : hole? d t with
    | none => rfl
    | some found => exact absurd (reads_of_hole? hfound) (hno found.1 found.2)

end FormTemplate
