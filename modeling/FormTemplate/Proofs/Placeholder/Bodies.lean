import FormTemplate.Proofs.Placeholder.Locality
import FormTemplate.Proofs.Text.Cutting
import FormTemplate.Proofs.Text.Trim

/-!
# Bodies — what stands between the delimiters of a placeholder

A placeholder is read in the best way there is, so its body cannot be cut differently to a better
one.  This says much about the body itself, whatever the delimiters are.

* `trimmed_body_or_blank` — no blank is at the ends of a body, unless it is all of the body;
* `not_isPrefix_closing_of_hole?` — from the second character of a body on, no closing delimiter
  starts in it;
* `isPrefix_closing_of_isInfix` — so a closing delimiter in a body stands at its front;
* `closing_in_expression_iff` — with the standard delimiters, it gets there where an empty or blank
  pair comes before the closing delimiter of the placeholder, and nowhere else.
-/

namespace FormTemplate

open Text (Trimmed allBlank isBlank utf8Length)

variable {d : Delimiters}

/-! ## Placeholders of a template -/

/-- A placeholder that was located is a hole at the front of what follows its place. -/
theorem exists_hole?_of_mem_locate {t : List Char} {start : Nat} {p : Placeholder}
    (hp : p ∈ locate d start (scan d t)) :
    ∃ u s h rest, t = u ++ s ∧ p.start = start + utf8Length u ∧ hole? d s = some (h, rest) ∧
      p.raw = String.ofList (h.raw d) ∧ p.expression = String.ofList h.expression := by
  induction t using scan.induct (d := d) generalizing start with
  | case1 t g rest hfound ih =>
      rw [scan_of_some hfound, locate] at hp
      rcases List.mem_cons.1 hp with rfl | hp
      · exact ⟨[], t, g, rest, rfl, rfl, hfound, rfl, rfl⟩
      · rcases ih hp with ⟨u, s, h, r, htext, hstart, hparts⟩
        refine ⟨g.raw d ++ u, s, h, r, ?_, ?_, hparts⟩
        · rw [eq_of_hole? hfound, htext, List.append_assoc]
        · rw [hstart, Text.utf8Length_append, Nat.add_assoc]
  | case2 hnone => simp [locate] at hp
  | case3 c rest hnone ih =>
      rw [scan_of_none hnone, locate] at hp
      rcases ih hp with ⟨u, s, h, r, htext, hstart, hparts⟩
      refine ⟨c :: u, s, h, r, ?_, ?_, hparts⟩
      · rw [htext, List.cons_append]
      · rw [hstart, Text.utf8Length_cons, Nat.add_assoc]

/-- A placeholder of a template was found as a hole at the front of some text. -/
theorem exists_hole?_of_mem_placeholders {content : String} {p : Placeholder}
    (hp : p ∈ placeholders d content) :
    ∃ h s rest, hole? d s = some (h, rest) ∧ p.raw.toList = h.raw d ∧
      p.expression.toList = h.expression := by
  rcases exists_hole?_of_mem_locate hp with ⟨u, s, h, rest, -, -, hfound, hraw, hexpression⟩
  refine ⟨h, s, rest, hfound, ?_, ?_⟩
  · rw [hraw, String.toList_ofList]
  · rw [hexpression, String.toList_ofList]

/-! ## The ends of a body -/

section Found

variable {t rest : List Char} {h : Hole} (hfound : hole? d t = some (h, rest))

include hfound

theorem isBlank_head_body {c : Char} {body : List Char} (hbody : h.body = c :: body)
    (hne : body ≠ []) : isBlank c = false := by
  rcases hole?_eq_some_iff.1 hfound with ⟨hr, hbest⟩
  by_contra hc
  have hblank : isBlank c = true := by
    simpa using hc
  -- the blank could be padding before the body
  have hpadded : Hole.Reads d t ⟨h.before ++ [c], body, h.after⟩ rest := by
    refine ⟨?_, ?_, hne, ?_, hr.after_blank⟩
    · rw [hr.text]
      simp [Hole.raw, Hole.inner, hbody]
    · have hbefore := hr.before_blank
      simp only [allBlank, List.all_append] at hbefore ⊢
      simp [hbefore, hblank]
    · intro hmem
      exact hr.body_line (by rw [hbody]; exact List.mem_cons_of_mem c hmem)
  have hrank := hbest _ _ hpadded
  have hpos := c.utf8Size_pos
  simp only [Hole.Outranks, Text.utf8Length_append, Text.utf8Length_cons] at hrank
  omega

theorem isBlank_last_body {c : Char} {body : List Char} (hbody : h.body = body ++ [c])
    (hne : body ≠ []) : isBlank c = false := by
  rcases hole?_eq_some_iff.1 hfound with ⟨hr, hbest⟩
  by_contra hc
  have hblank : isBlank c = true := by
    simpa using hc
  -- the blank could be padding after the body
  have hpadded : Hole.Reads d t ⟨h.before, body, c :: h.after⟩ rest := by
    refine ⟨?_, hr.before_blank, hne, ?_, ?_⟩
    · rw [hr.text]
      simp [Hole.raw, Hole.inner, hbody]
    · intro hmem
      exact hr.body_line (by rw [hbody]; exact List.mem_append_left _ hmem)
    · have hafter := hr.after_blank
      simp only [allBlank, List.all_cons] at hafter ⊢
      simp [hafter, hblank]
  have hrank := hbest _ _ hpadded
  have hpos := c.utf8Size_pos
  simp only [Hole.Outranks, hbody, Text.utf8Length_append, Text.utf8Length_cons] at hrank
  omega

/-- All the blanks around a body belong to the padding, and a body that is left without any other
character is a single blank. -/
theorem trimmed_body_or_blank : Trimmed h.body ∨ ∃ c, h.body = [c] ∧ isBlank c = true := by
  have hne := (reads_of_hole? hfound).body_ne
  by_cases hsingle : ∃ c, h.body = [c]
  · rcases hsingle with ⟨c, hc⟩
    by_cases hblank : isBlank c = true
    · exact .inr ⟨c, hc, hblank⟩
    · exact .inl ⟨by simpa [hc] using hblank, by simpa [hc] using hblank⟩
  · -- with two characters or more, one at an end could go to the padding
    refine .inl ⟨?_, ?_⟩
    · intro c hc
      rcases List.head?_eq_some_iff.1 hc with ⟨body, hbody⟩
      refine isBlank_head_body hfound hbody ?_
      rintro rfl
      exact hsingle ⟨c, hbody⟩
    · intro c hc
      rcases List.getLast?_eq_some_iff.1 hc with ⟨body, hbody⟩
      refine isBlank_last_body hfound hbody ?_
      rintro rfl
      exact hsingle ⟨c, hbody⟩

/-! ## Closing delimiters in a body -/

/-- Where a closing delimiter starts inside a body, the body could have ended. -/
theorem not_isPrefix_closing_of_hole? {x y : List Char} (hbody : h.body = x ++ y) (hx : x ≠ [])
    (hy : y ≠ []) : ¬ d.closing <+: y ++ (h.after ++ (d.closing ++ rest)) := by
  rcases hole?_eq_some_iff.1 hfound with ⟨hr, hbest⟩
  rintro ⟨r, hclose⟩
  have hshort : Hole.Reads d t ⟨h.before, x, []⟩ r := by
    refine ⟨?_, hr.before_blank, hx, ?_, rfl⟩
    · rw [hr.text]
      simp [Hole.raw, Hole.inner, hbody, hclose]
    · intro hmem
      exact hr.body_line (by rw [hbody]; exact List.mem_append_left _ hmem)
  have hrank := hbest _ _ hshort
  have hpos := Text.utf8Length_pos hy
  simp only [Hole.Outranks, hbody, Text.utf8Length_append] at hrank
  omega

/-- Where the text between the delimiters has no blank at either end, no closing delimiter can start
in that text and end in the one behind it. -/
theorem not_isPrefix_closing_of_inner {c e : Char} {x y : List Char}
    (hinner : h.inner = c :: x ++ (y ++ [e])) (hc : isBlank c = false) (he : isBlank e = false) :
    ¬ d.closing <+: y ++ [e] ++ (d.closing ++ rest) := by
  have hr := reads_of_hole? hfound
  have hbefore : h.before = [] := by
    cases hcut : h.before with
    | nil => rfl
    | cons b before =>
        have hblank := hr.before_blank
        have hbc : b = c := by
          simp only [Hole.inner, hcut, List.cons_append] at hinner
          exact (List.cons.inj hinner).1
        simp [hcut, allBlank, hbc, hc] at hblank
  have hafter : h.after = [] := by
    rcases List.eq_nil_or_concat' h.after with hnil | ⟨after, b, hcut⟩
    · exact hnil
    · have hblank := hr.after_blank
      have hbe : b = e := by
        have hlast := congrArg List.getLast? hinner
        rw [← List.append_assoc, List.getLast?_concat] at hlast
        simpa [Hole.inner, hcut] using hlast
      simp [hcut, allBlank, hbe, he] at hblank
  have hbody : h.body = c :: x ++ (y ++ [e]) := by
    simpa [Hole.inner, hbefore, hafter] using hinner
  have hclose := not_isPrefix_closing_of_hole? hfound hbody (List.cons_ne_nil c x) (by simp)
  simpa [hafter] using hclose

theorem isPrefix_closing_of_isInfix (hinside : d.closing <:+: h.body) : d.closing <+: h.body := by
  rcases hinside with ⟨x, y, hbody⟩
  cases x with
  | nil => exact ⟨y, hbody⟩
  | cons c x =>
      have hcut : h.body = (c :: x) ++ (d.closing ++ y) := by
        rw [← hbody, List.append_assoc]
      refine absurd ?_ (not_isPrefix_closing_of_hole? hfound hcut (List.cons_ne_nil c x) ?_)
      · rw [List.append_assoc]
        exact List.prefix_append _ _
      · simp [d.closing_ne]

/-- All the blanks in front of a first closing delimiter belong to the padding before the body, if
the placeholder goes on behind that delimiter. -/
theorem before_eq_of_raw_eq (hclosing : Trimmed d.closing) {blanks inner : List Char}
    (hblanks : allBlank blanks = true)
    (hraw : h.raw d = d.opening ++ (blanks ++ (d.closing ++ (inner ++ d.closing)))) :
    h.before = blanks ∧ h.body ++ (h.after ++ d.closing) = d.closing ++ (inner ++ d.closing) := by
  have hr := reads_of_hole? hfound
  have htext : blanks ++ (d.closing ++ (inner ++ d.closing)) =
      h.before ++ (h.body ++ (h.after ++ d.closing)) := by
    simpa [Hole.raw, Hole.inner] using hraw.symm
  have hle := utf8Length_le_of_blank htext d.closing_ne hclosing.head hr.before_blank
  rcases Text.exists_of_append_eq htext.symm hle with ⟨w, hw, hcut⟩
  cases w with
  | nil => exact ⟨by simpa using hw.symm, hcut⟩
  | cons c w =>
      -- a blank would be left for the front of the body, which is then nothing but that blank
      have hblank : isBlank c = true ∧ allBlank w = true := by
        rw [hw] at hblanks
        simp only [allBlank, List.all_append, List.all_cons, Bool.and_eq_true] at hblanks
        exact hblanks.2
      exfalso
      rcases trimmed_body_or_blank hfound with htrimmed | ⟨e, hbody, -⟩
      · cases hbody : h.body with
        | nil => exact hr.body_ne hbody
        | cons e body =>
            rw [hbody] at hcut
            have hec : e = c := (List.cons.inj hcut).1
            have hhead := htrimmed.head e (by simp [hbody])
            simp [hec, hblank.1] at hhead
      · have hrest : w ++ (d.closing ++ (inner ++ d.closing)) = h.after ++ d.closing := by
          rw [hbody] at hcut
          exact (List.cons.inj hcut).2.symm
        have hafter := utf8Length_le_of_blank hrest d.closing_ne hclosing.head hr.after_blank
        have hsize := congrArg utf8Length hrest
        have hpos := Text.utf8Length_pos d.closing_ne
        simp only [Text.utf8Length_append] at hsize
        omega

/-- A closing delimiter without blanks at its ends is in the body exactly if, before the closing
delimiter of the placeholder, there is one with nothing but blanks in front of it. -/
theorem closing_isInfix_body_iff (hclosing : Trimmed d.closing) :
    d.closing <:+: h.body ↔
      ∃ blanks inner, allBlank blanks = true ∧
        h.raw d = d.opening ++ (blanks ++ (d.closing ++ (inner ++ d.closing))) := by
  have hr := reads_of_hole? hfound
  constructor
  · intro hinside
    rcases isPrefix_closing_of_isInfix hfound hinside with ⟨y, hbody⟩
    refine ⟨h.before, y ++ h.after, hr.before_blank, ?_⟩
    simp [Hole.raw, Hole.inner, ← hbody]
  · rintro ⟨blanks, inner, hblanks, hraw⟩
    have hcut := (before_eq_of_raw_eq hfound hclosing hblanks hraw).2
    by_cases hle : utf8Length d.closing ≤ utf8Length h.body
    · rcases Text.exists_of_append_eq hcut.symm hle with ⟨z, hbody, -⟩
      exact ⟨[], z, by simpa using hbody.symm⟩
    · -- the first closing delimiter would end in the blanks after the body
      rcases Text.exists_of_append_eq hcut (by omega) with ⟨z, hz, hafter⟩
      have hblank : h.after = z ++ inner := by
        rw [← List.append_assoc] at hafter
        exact List.append_cancel_right hafter
      have hne : z ≠ [] := by
        rintro rfl
        simp [hz] at hle
      exfalso
      have hlast := hclosing.last (z.getLast hne)
        (by simp [hz, hne, List.getLast?_eq_some_getLast])
      have hall := hr.after_blank
      rw [hblank, allBlank, List.all_append, Bool.and_eq_true, List.all_eq_true] at hall
      simp [hall.1 _ (List.getLast_mem hne)] at hlast

theorem closing_isInfix_expression_iff (hclosing : Trimmed d.closing) :
    d.closing <:+: h.expression ↔ d.closing <:+: h.body := by
  constructor
  · intro hinside
    exact hinside.trans (Text.isInfix_trim h.body)
  · intro hinside
    rcases trimmed_body_or_blank hfound with htrimmed | ⟨c, hbody, hblank⟩
    · rw [Hole.expression, htrimmed.trim_eq]
      exact hinside
    · -- a body that is a single blank has no room for a character of the delimiter
      exfalso
      cases hd : d.closing with
      | nil => exact d.closing_ne hd
      | cons e closing =>
          have hec : e = c := by
            have hmem := hinside.mem (a := e) (by simp [hd])
            simpa [hbody] using hmem
          have hhead := hclosing.head e (by simp [hd])
          simp [hec, hblank] at hhead

end Found

/-! ## Empty and blank pairs -/

theorem trimmed_closing_standard : Trimmed Delimiters.standard.closing := by
  constructor
  · intro c hc
    cases hc
    rfl
  · intro c hc
    cases hc
    rfl

/-- With the standard delimiters, an expression has a closing delimiter in it exactly if an empty or
blank pair of delimiters stands at the front of its placeholder, and the closing delimiter of the
placeholder behind that pair. -/
theorem closing_in_expression_iff (content : String) (p : Placeholder)
    (hp : p ∈ placeholders .standard content) :
    ['}', '}'] <:+: p.expression.toList ↔
      ∃ blanks inner, allBlank blanks = true ∧
        p.raw.toList = ['{', '{'] ++ blanks ++ ['}', '}'] ++ inner ++ ['}', '}'] := by
  rcases exists_hole?_of_mem_placeholders hp with ⟨h, s, rest, hfound, hraw, hexpression⟩
  rw [hexpression, hraw]
  calc
    ['}', '}'] <:+: h.expression
        ↔ Delimiters.standard.closing <:+: h.body :=
          closing_isInfix_expression_iff hfound trimmed_closing_standard
    _ ↔ ∃ blanks inner, allBlank blanks = true ∧
          h.raw .standard = ['{', '{'] ++ (blanks ++ (['}', '}'] ++ (inner ++ ['}', '}']))) :=
          closing_isInfix_body_iff hfound trimmed_closing_standard
    _ ↔ ∃ blanks inner, allBlank blanks = true ∧
          h.raw .standard = ['{', '{'] ++ blanks ++ ['}', '}'] ++ inner ++ ['}', '}'] := by
          simp only [List.append_assoc]

/-- A blank pair with a placeholder behind it. -/
theorem closing_in_expression_blank_pair :
    let content := "\x7b\x7b\t\x7d\x7d\x7b\x7bb\x7d\x7d"
    let p : Placeholder := ⟨0, 10, content, "\x7d\x7d\x7b\x7bb"⟩
    p ∈ placeholders .standard content ∧ ['}', '}'] <:+: p.expression.toList := by
  intro content p
  have hscan : scan .standard content.toList =
      [.hole ⟨['\t'], ['}', '}', '{', '{', 'b'], []⟩] := by
    have htext : content.toList = ['{', '{', '\t', '}', '}', '{', '{', 'b', '}', '}'] := by
      decide
    rw [htext, scan_of_some (by rfl), scan_nil]
  have hp : p ∈ placeholders .standard content := by
    rw [placeholders, hscan]
    exact List.mem_cons_self
  refine ⟨hp, (closing_in_expression_iff content p hp).2 ⟨['\t'], ['{', '{', 'b'], rfl, ?_⟩⟩
  decide

/-- An empty pair takes the next placeholder of its line into its own expression. -/
theorem empty_pair_closing_in_expression :
    let content := "\x7b\x7b\x7d\x7d and \x7b\x7bname\x7d\x7d"
    placeholders .standard content =
        [⟨0, 17, content, "\x7d\x7d and \x7b\x7bname"⟩] ∧
      ['}', '}'] <:+: "\x7d\x7d and \x7b\x7bname".toList := by
  intro content
  have hscan : scan .standard content.toList =
      [.hole ⟨[], ['}', '}', ' ', 'a', 'n', 'd', ' ', '{', '{', 'n', 'a', 'm', 'e'], []⟩] := by
    have htext : content.toList =
        ['{', '{', '}', '}', ' ', 'a', 'n', 'd', ' ', '{', '{', 'n', 'a', 'm', 'e', '}', '}'] := by
      decide
    rw [htext, scan_of_some (by rfl), scan_nil]
  refine ⟨?_, by decide⟩
  rw [placeholders, hscan]
  rfl

end FormTemplate
