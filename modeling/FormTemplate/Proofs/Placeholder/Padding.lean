import FormTemplate.Proofs.Placeholder.Bodies
import FormTemplate.Proofs.Placeholder.Scan

/-!
# Padding — the blanks around the body of a placeholder

The padding takes every blank that it can get, and a body needs one character at least.  So a body
begins or ends with a blank only where there is nothing else between the delimiters.

* `Text.takeWhile_padded`, `Text.rtakeWhile_padded` — the blanks around a trimmed text are the first
  and the last ones;
* `Hole.Reads.trim_inner` — an expression is what stands between the delimiters, without the blanks
  at its ends;
* `Hole.Reads.expression_eq_nil_iff` — it is empty exactly if there are blanks only;
* `before_eq_takeWhile`, `after_eq_rtakeWhile` — otherwise all the blanks at the ends are padding;
* `padding_takes_blanks` — the same of the placeholders of a template.

The delimiters may begin or end with blanks themselves; those are no padding.
-/

namespace FormTemplate

open Text (Trimmed allBlank isBlank utf8Length)

variable {d : Delimiters}

/-! ## Blanks around a text -/

namespace Text

variable {before t after : List Char}

theorem takeWhile_blank_append (hbefore : allBlank before = true)
    (hhead : ∀ c ∈ t.head?, isBlank c = false) : (before ++ t).takeWhile isBlank = before := by
  rw [List.takeWhile_append_of_pos (List.all_eq_true.1 hbefore)]
  cases t with
  | nil => simp
  | cons c t => simp [hhead c rfl]

theorem takeWhile_padded (hbefore : allBlank before = true) (ht : Trimmed t) (hne : t ≠ []) :
    (before ++ t ++ after).takeWhile isBlank = before := by
  rw [List.append_assoc]
  refine takeWhile_blank_append hbefore ?_
  rw [List.head?_append_of_ne_nil t hne]
  exact ht.head

theorem rtakeWhile_padded (hafter : allBlank after = true) (ht : Trimmed t) (hne : t ≠ []) :
    (before ++ t ++ after).rtakeWhile isBlank = after := by
  have hreverse : allBlank after.reverse = true := by
    rw [allBlank, List.all_reverse]
    exact hafter
  -- seen from the other end, the last blanks are the first ones
  have hfirst : (after.reverse ++ (before ++ t).reverse).takeWhile isBlank = after.reverse := by
    refine takeWhile_blank_append hreverse ?_
    rw [List.head?_reverse, List.getLast?_append_of_ne_nil before hne]
    exact ht.last
  rw [List.rtakeWhile, List.reverse_append, hfirst, List.reverse_reverse]

end Text

/-! ## Between the delimiters -/

theorem Hole.Reads.trim_inner {t rest : List Char} {h : Hole} (hr : h.Reads d t rest) :
    Text.trim h.inner = h.expression :=
  Text.trim_padded hr.before_blank hr.after_blank

theorem Hole.Reads.expression_eq_nil_iff {t rest : List Char} {h : Hole} (hr : h.Reads d t rest) :
    h.expression = [] ↔ allBlank h.inner = true := by
  rw [← hr.trim_inner, Text.trim_eq_nil_iff]

/-- A line feed cannot be a body, so the blank before it is, and the line feed is padding. -/
example : hole? .standard ['{', '{', ' ', '\n', '}', '}'] = some (⟨[], [' '], ['\n']⟩, []) := rfl

section Found

variable {t rest : List Char} {h : Hole} (hfound : hole? d t = some (h, rest))

include hfound

theorem trimmed_body_of_expression_ne (hne : h.expression ≠ []) : Trimmed h.body := by
  rcases trimmed_body_or_blank hfound with htrimmed | ⟨c, hbody, hblank⟩
  · exact htrimmed
  · -- nothing is left of a single blank
    refine absurd ?_ hne
    rw [Hole.expression, hbody]
    exact Text.trim_of_allBlank (by simpa [allBlank] using hblank)

theorem body_eq_expression (hne : h.expression ≠ []) : h.body = h.expression :=
  (trimmed_body_of_expression_ne hfound hne).trim_eq.symm

theorem before_eq_takeWhile (hne : h.expression ≠ []) :
    h.before = h.inner.takeWhile isBlank := by
  have hr := reads_of_hole? hfound
  have htrimmed := trimmed_body_of_expression_ne hfound hne
  exact (Text.takeWhile_padded hr.before_blank htrimmed hr.body_ne).symm

theorem after_eq_rtakeWhile (hne : h.expression ≠ []) :
    h.after = h.inner.rtakeWhile isBlank := by
  have hr := reads_of_hole? hfound
  have htrimmed := trimmed_body_of_expression_ne hfound hne
  exact (Text.rtakeWhile_padded hr.after_blank htrimmed hr.body_ne).symm

end Found

/-! ## The placeholders of a template -/

/-- Whatever the delimiters are, the body that is captured at the best placement of a placeholder has
no blank at either end, or it is a single blank.  The expression is empty exactly if nothing but
blanks stand between the delimiters; otherwise it is the body as captured, and the padding before
and after it has all the blanks at that end. -/
theorem padding_takes_blanks {content : String} {p : Placeholder}
    (hp : p ∈ placeholders d content) :
    ∃ h : Hole, (h.placement d p.start).Best d content p.start ∧
      p.raw.toList = h.raw d ∧ p.expression.toList = h.expression ∧
      (Trimmed h.body ∨ ∃ c, h.body = [c] ∧ isBlank c = true) ∧
      (p.expression = "" ↔ allBlank h.inner = true) ∧
      (p.expression ≠ "" →
        h.body = p.expression.toList ∧ h.before = h.inner.takeWhile isBlank ∧
          h.after = h.inner.rtakeWhile isBlank) := by
  obtain ⟨u, s, h, rest, htext, hstart, hfound, hraw, hexpression⟩ :=
    exists_hole?_of_mem_locate hp
  -- the best placement at its place is the reading that was found there
  have hbest : (h.placement d p.start).Best d content p.start := by
    rw [← String.ofList_toList (s := content), htext, hstart, Nat.zero_add]
    exact Placement.best_iff.2 ⟨h, rest, hfound, rfl⟩
  have hempty : p.expression = "" ↔ h.expression = [] := by
    rw [hexpression, ← String.toList_inj, String.toList_ofList, String.toList_empty]
  have hlist : p.expression.toList = h.expression := by
    rw [hexpression, String.toList_ofList]
  refine ⟨h, hbest, by rw [hraw, String.toList_ofList], hlist, trimmed_body_or_blank hfound, ?_, ?_⟩
  · rw [hempty]
    exact (reads_of_hole? hfound).expression_eq_nil_iff
  · intro hne
    have hsome : h.expression ≠ [] := fun hnil => hne (hempty.2 hnil)
    exact ⟨(body_eq_expression hfound hsome).trans hlist.symm, before_eq_takeWhile hfound hsome,
      after_eq_rtakeWhile hfound hsome⟩

/-- Delimiters that end and begin with a blank, and a line feed in the padding. -/
theorem padding_takes_blanks_spaced :
    let d : Delimiters := ⟨['<', '%', ' '], [' ', '%', '>'], ['|'], by decide, by decide, by decide⟩
    let content := "<% \n x\t %>"
    let p : Placeholder := ⟨0, 10, content, "x"⟩
    p ∈ placeholders d content ∧
      ∃ h : Hole, content.toList = h.raw d ∧ h.body = ['x'] ∧
        h.before = h.inner.takeWhile isBlank ∧ h.after = h.inner.rtakeWhile isBlank := by
  intro d content p
  have hscan : scan d content.toList = [.hole ⟨['\n', ' '], ['x'], ['\t']⟩] := by
    have htext : content.toList = ['<', '%', ' ', '\n', ' ', 'x', '\t', ' ', '%', '>'] := by
      decide
    rw [htext, scan_of_some (by rfl), scan_nil]
  have hp : p ∈ placeholders d content := by
    rw [placeholders, hscan]
    exact List.mem_cons_self
  obtain ⟨h, -, hraw, -, -, -, hpadding⟩ := padding_takes_blanks hp
  obtain ⟨hbody, hbefore, hafter⟩ := hpadding (by decide)
  exact ⟨hp, h, hraw, hbody.trans (by decide), hbefore, hafter⟩

end FormTemplate
