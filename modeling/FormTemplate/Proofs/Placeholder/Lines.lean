import FormTemplate.Proofs.Placeholder.Bodies

/-!
# Lines — placeholders that span lines

A body has no line feed, but a line feed is blank, so the padding around a body may have some.

* `Hole.newline_mem_raw_iff` — a line feed in a placeholder is in its padding;
* `newline_notMem_expression_of_mem` — what a placeholder declares is on one line;
* `spans_lines_iff` — the placeholder itself spans lines exactly where nothing but blanks stand
  between a line feed and one of its delimiters.
-/

namespace FormTemplate

open Text (allBlank)

variable {d : Delimiters} {t rest : List Char}

theorem Hole.newline_mem_raw_iff {h : Hole} (hfound : hole? d t = some (h, rest))
    (hopening : '\n' ∉ d.opening) (hclosing : '\n' ∉ d.closing) :
    '\n' ∈ h.raw d ↔ '\n' ∈ h.before ∨ '\n' ∈ h.after := by
  have hbody := (reads_of_hole? hfound).body_line
  simp [Hole.raw, Hole.inner, hopening, hclosing, hbody]

/-- A line feed in the padding is next to a delimiter, but for other blanks. -/
theorem Hole.newline_in_padding_iff {h : Hole} (hfound : hole? d t = some (h, rest))
    (hopening : '\n' ∉ d.opening) (hclosing : '\n' ∉ d.closing) :
    '\n' ∈ h.raw d ↔
      ∃ blanks inner, allBlank blanks = true ∧
        (h.raw d = d.opening ++ blanks ++ '\n' :: inner ++ d.closing ∨
          h.raw d = d.opening ++ inner ++ '\n' :: blanks ++ d.closing) := by
  have hr := reads_of_hole? hfound
  constructor
  · intro hmem
    rcases (newline_mem_raw_iff hfound hopening hclosing).1 hmem with hbefore | hafter
    · obtain ⟨blanks, more, hcut⟩ := List.append_of_mem hbefore
      have hblank : allBlank blanks = true := by
        have hall := hr.before_blank
        rw [hcut, allBlank, List.all_append, Bool.and_eq_true] at hall
        exact hall.1
      refine ⟨blanks, more ++ h.body ++ h.after, hblank, .inl ?_⟩
      simp [Hole.raw, Hole.inner, hcut]
    · obtain ⟨more, blanks, hcut⟩ := List.append_of_mem hafter
      have hblank : allBlank blanks = true := by
        have hall := hr.after_blank
        rw [hcut, allBlank, List.all_append, List.all_cons] at hall
        simp only [Bool.and_eq_true] at hall
        exact hall.2.2
      refine ⟨blanks, h.before ++ h.body ++ more, hblank, .inr ?_⟩
      simp [Hole.raw, Hole.inner, hcut]
  · rintro ⟨blanks, inner, -, hraw | hraw⟩
    · simp [hraw]
    · simp [hraw]

theorem newline_notMem_expression_of_mem {content : String} {p : Placeholder}
    (hp : p ∈ placeholders d content) : '\n' ∉ p.expression.toList := by
  rcases exists_hole?_of_mem_placeholders hp with ⟨h, s, rest, hfound, -, hexpression⟩
  intro hmem
  rw [hexpression, Hole.expression] at hmem
  exact (reads_of_hole? hfound).body_line ((Text.isInfix_trim h.body).mem hmem)

/-- With delimiters that have no line feed, a placeholder has one in it exactly if there is one among
the blanks behind its opening delimiter or among those before its closing delimiter.  Its expression
has none. -/
theorem spans_lines_iff {content : String} {p : Placeholder} (hopening : '\n' ∉ d.opening)
    (hclosing : '\n' ∉ d.closing) (hp : p ∈ placeholders d content) :
    ('\n' ∈ p.raw.toList ↔
      ∃ blanks inner, allBlank blanks = true ∧
        (p.raw.toList = d.opening ++ blanks ++ '\n' :: inner ++ d.closing ∨
          p.raw.toList = d.opening ++ inner ++ '\n' :: blanks ++ d.closing)) ∧
      '\n' ∉ p.expression.toList := by
  refine ⟨?_, newline_notMem_expression_of_mem hp⟩
  rcases exists_hole?_of_mem_placeholders hp with ⟨h, s, rest, hfound, hraw, -⟩
  rw [hraw]
  exact Hole.newline_in_padding_iff hfound hopening hclosing

/-- A closing brace on the line behind the one that a placeholder starts on. -/
theorem spans_lines_closing_brace :
    let d : Delimiters := ⟨['$', '{'], ['}'], ['|'], by decide, by decide, by decide⟩
    let content := "$\x7ba b \n\t\x7d"
    let p : Placeholder := ⟨0, 9, content, "a b"⟩
    ('\n' ∉ d.opening ∧ '\n' ∉ d.closing ∧ p ∈ placeholders d content) ∧
      '\n' ∈ p.raw.toList := by
  intro d content p
  have hscan : scan d content.toList = [.hole ⟨[], ['a', ' ', 'b'], [' ', '\n', '\t']⟩] := by
    have htext : content.toList = ['$', '{', 'a', ' ', 'b', ' ', '\n', '\t', '}'] := by
      decide
    rw [htext, scan_of_some (by rfl), scan_nil]
  have hp : p ∈ placeholders d content := by
    rw [placeholders, hscan]
    exact List.mem_cons_self
  have hopening : '\n' ∉ d.opening := by decide
  have hclosing : '\n' ∉ d.closing := by decide
  refine ⟨⟨hopening, hclosing, hp⟩, (spans_lines_iff hopening hclosing hp).1.2 ?_⟩
  exact ⟨['\t'], ['a', ' ', 'b', ' '], rfl, .inr (by decide)⟩

/-- With the standard delimiters, a name on the line behind its opening delimiter is read. -/
theorem placeholder_spans_lines :
    let content := "\x7b\x7b\nname\x7d\x7d"
    placeholders .standard content = [⟨0, 9, content, "name"⟩] ∧ '\n' ∈ content.toList := by
  intro content
  have hscan : scan .standard content.toList = [.hole ⟨['\n'], ['n', 'a', 'm', 'e'], []⟩] := by
    have htext : content.toList = ['{', '{', '\n', 'n', 'a', 'm', 'e', '}', '}'] := by
      decide
    rw [htext, scan_of_some (by rfl), scan_nil]
  refine ⟨?_, by decide⟩
  rw [placeholders, hscan]
  rfl

end FormTemplate
