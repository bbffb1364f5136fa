import FormTemplate.Proofs.Placeholder.Pieces
import FormTemplate.Proofs.Placeholder.Reading

/-!
# Scan — the placeholders of a template by their places

A second description of `placeholders`, in byte places of the template alone.

* `Placement.Fits` — a placeholder can be placed so: its delimiters, its padding and its body lie in
  the text one after the other;
* `Placement.Best` — the latest start of the body, then its earliest end, then the latest closing
  delimiter;
* `Scanned` — from a place on, the first place where a placeholder fits, and on from its end;
* `fits_iff`, `best_iff` — placements are readings, and the best one is what `hole?` finds;
* `scanned_iff_placeholders` — `placeholders` gives what the description allows, and nothing else
  does.
-/

namespace FormTemplate

open Text (Span utf8Length)

variable {d : Delimiters}

/-! ## Placements -/

/-- Where the body of a placeholder starts and stops, and where its closing delimiter starts. -/
structure Placement where
  bodyStart : Nat
  bodyStop : Nat
  closing : Nat
  deriving DecidableEq

namespace Placement

/-- The end of the placeholder. -/
def stop (d : Delimiters) (m : Placement) : Nat :=
  m.closing + utf8Length d.closing

/-- A placeholder that starts at byte `i` of `t` can be placed like this. -/
structure Fits (d : Delimiters) (t : String) (i : Nat) (m : Placement) : Prop where
  opening : Span t i (i + utf8Length d.opening) (String.ofList d.opening)
  before : ∃ w, Span t (i + utf8Length d.opening) m.bodyStart w ∧ Text.blankString w = true
  body_lt : m.bodyStart < m.bodyStop
  body : ∃ w, Span t m.bodyStart m.bodyStop w ∧ '\n' ∉ w.toList
  after : ∃ w, Span t m.bodyStop m.closing w ∧ Text.blankString w = true
  closing : Span t m.closing (m.stop d) (String.ofList d.closing)

/-- The first placement is at least as good as the second one. -/
def Outranks (m n : Placement) : Prop :=
  n.bodyStart < m.bodyStart ∨
    n.bodyStart = m.bodyStart ∧
      (m.bodyStop < n.bodyStop ∨ m.bodyStop = n.bodyStop ∧ n.closing ≤ m.closing)

/-- Of all placements at byte `i` the best one. -/
structure Best (d : Delimiters) (t : String) (i : Nat) (m : Placement) : Prop where
  fits : m.Fits d t i
  outranks : ∀ n : Placement, n.Fits d t i → m.Outranks n

/-- A placeholder takes more than its two delimiters. -/
theorem Fits.size_lt {t : String} {i : Nat} {m : Placement} (h : m.Fits d t i) :
    i + utf8Length d.opening + utf8Length d.closing < m.stop d := by
  rcases h.before with ⟨w, hw, -⟩
  rcases h.after with ⟨w', hw', -⟩
  have hbefore := hw.le
  have hbody := h.body_lt
  have hafter := hw'.le
  simp only [stop]
  omega

theorem Best.unique {t : String} {i : Nat} {m n : Placement} (hm : m.Best d t i)
    (hn : n.Best d t i) : m = n := by
  have hmn := hm.outranks n hn.fits
  have hnm := hn.outranks m hm.fits
  rcases m with ⟨s, e, g⟩
  rcases n with ⟨s', e', g'⟩
  simp only [Outranks] at hmn hnm
  simp only [Placement.mk.injEq]
  omega

end Placement

/-! ## The reference scan -/

/-- From byte `pos` on, these are the placeholders of `t`: at the first byte where one fits the best
one is taken, and the scan goes on at its end. -/
inductive Scanned (d : Delimiters) (t : String) : Nat → List Placeholder → Prop where
  | done {pos : Nat} (nowhere : ∀ i m, pos ≤ i → ¬ Placement.Fits d t i m) : Scanned d t pos []
  | next {pos i : Nat} {m : Placement} {raw body : String} {ps : List Placeholder}
      (ahead : pos ≤ i) (first : ∀ j n, pos ≤ j → j < i → ¬ Placement.Fits d t j n)
      (best : m.Best d t i) (raw_span : Span t i (m.stop d) raw)
      (body_span : Span t m.bodyStart m.bodyStop body) (rest : Scanned d t (m.stop d) ps) :
      Scanned d t pos (⟨i, m.stop d, raw, Text.trimString body⟩ :: ps)

namespace Scanned

variable {t : String} {pos : Nat} {ps ps' : List Placeholder}

theorem unique (h : Scanned d t pos ps) (h' : Scanned d t pos ps') : ps = ps' := by
  induction h generalizing ps' with
  | done nowhere =>
      cases h' with
      | done => rfl
      | next ahead first best => exact absurd best.fits (nowhere _ _ ahead)
  | next ahead first best raw_span body_span rest ih =>
      rename_i pos i m raw body ps
      cases h' with
      | done nowhere => exact absurd best.fits (nowhere _ _ ahead)
      | @next _ i' m' raw' body' _ ahead' first' best' raw_span' body_span' rest' =>
          have hi : i = i' := by
            rcases Nat.lt_trichotomy i i' with hlt | heq | hgt
            · exact absurd best.fits (first' _ _ ahead hlt)
            · exact heq
            · exact absurd best'.fits (first _ _ ahead' hgt)
          subst hi
          have hm := best.unique best'
          subst hm
          rw [raw_span.unique raw_span', body_span.unique body_span', ih rest']

/-- Bytes where no placeholder fits can be put in front. -/
theorem back {pos' : Nat} (h : Scanned d t pos ps) (hle : pos' ≤ pos)
    (hno : ∀ j n, pos' ≤ j → j < pos → ¬ Placement.Fits d t j n) : Scanned d t pos' ps := by
  cases h with
  | done nowhere =>
      refine .done ?_
      intro i m hi
      by_cases hlt : i < pos
      · exact hno i m hi hlt
      · exact nowhere i m (by omega)
  | next ahead first best raw_span body_span rest =>
      refine .next (by omega) ?_ best raw_span body_span rest
      intro j n hj hlt
      by_cases hpos : j < pos
      · exact hno j n hj hpos
      · exact first j n (by omega) hlt

/-- Each range is the place of the placeholder as it is written. -/
theorem span_of_mem (h : Scanned d t pos ps) : ∀ p ∈ ps, Span t p.start p.stop p.raw := by
  induction h with
  | done => simp
  | next ahead first best raw_span body_span rest ih =>
      intro p hp
      rcases List.mem_cons.1 hp with rfl | hp
      · exact raw_span
      · exact ih p hp

theorem range_of_mem (h : Scanned d t pos ps) : ∀ p ∈ ps, pos ≤ p.start ∧ p.start < p.stop := by
  induction h with
  | done => simp
  | next ahead first best raw_span body_span rest ih =>
      intro p hp
      have hsize := best.fits.size_lt
      rcases List.mem_cons.1 hp with rfl | hp
      · exact ⟨ahead, by simp only; omega⟩
      · rcases ih p hp with ⟨hle, hlt⟩
        exact ⟨by omega, hlt⟩

theorem pairwise_range (h : Scanned d t pos ps) : ps.Pairwise fun p q => p.stop ≤ q.start := by
  induction h with
  | done => exact .nil
  | next ahead first best raw_span body_span rest ih =>
      exact .cons (fun q hq => (rest.range_of_mem q hq).1) ih

/-- Wherever a placeholder fits, one is found there or runs over that place. -/
theorem exists_mem_of_fits (h : Scanned d t pos ps) {i : Nat} {m : Placement}
    (hfits : m.Fits d t i) (hpos : pos ≤ i) : ∃ p ∈ ps, p.start ≤ i ∧ i < p.stop := by
  induction h with
  | done nowhere => exact absurd hfits (nowhere _ _ hpos)
  | @next pos j n raw body ps ahead first best raw_span body_span rest ih =>
      have hji : j ≤ i := by
        by_contra hlt
        exact first i m hpos (by omega) hfits
      by_cases hstop : i < n.stop d
      · exact ⟨_, List.mem_cons_self, hji, hstop⟩
      · rcases ih (by omega) with ⟨p, hp, hrange⟩
        exact ⟨p, List.mem_cons_of_mem _ hp, hrange⟩

end Scanned

/-! ## Placements are readings -/

/-- Where the parts of a hole lie when it starts at byte `start`. -/
def Hole.placement (d : Delimiters) (start : Nat) (h : Hole) : Placement :=
  let bodyStart := start + utf8Length d.opening + utf8Length h.before
  let bodyStop := bodyStart + utf8Length h.body
  ⟨bodyStart, bodyStop, bodyStop + utf8Length h.after⟩

@[simp]
theorem Hole.stop_placement (start : Nat) (h : Hole) :
    (h.placement d start).stop d = start + utf8Length (h.raw d) := by
  simp only [Hole.placement, Placement.stop, Hole.raw, Hole.inner, Text.utf8Length_append]
  omega

theorem Hole.outranks_placement {start : Nat} {h g : Hole} :
    (h.placement d start).Outranks (g.placement d start) ↔ h.Outranks g := by
  simp only [Hole.placement, Placement.Outranks, Hole.Outranks]
  omega

namespace Placement

variable {u v : List Char} {m : Placement}

theorem Fits.exists_reads (hm : m.Fits d (String.ofList (u ++ v)) (utf8Length u)) :
    ∃ h rest, Hole.Reads d v h rest ∧ m = h.placement d (utf8Length u) := by
  rcases hm with ⟨hopening, ⟨before, hbefore, hblank⟩, hlt, ⟨body, hbody, hline⟩,
    ⟨after, hafter, hblank'⟩, hclosing⟩
  -- Each part lies where the one before it ends, so the parts come off the text from left to right.
  rcases Text.span_ofList_iff.1 hopening with ⟨v, rfl, -⟩
  rw [← Text.utf8Length_append, String.toList_ofList, ← List.append_assoc] at hbefore
  rw [String.toList_ofList, ← List.append_assoc] at hbody hafter hclosing
  rcases Text.span_ofList_iff.1 hbefore with ⟨v, rfl, hs⟩
  rw [hs, ← List.append_assoc] at hbody
  rw [← List.append_assoc] at hafter hclosing
  rcases Text.span_ofList_iff.1 hbody with ⟨v, rfl, he⟩
  rw [he, ← List.append_assoc] at hafter
  rw [← List.append_assoc] at hclosing
  rcases Text.span_ofList_iff.1 hafter with ⟨v, rfl, hg⟩
  rw [hg, ← List.append_assoc] at hclosing
  rcases Text.span_ofList_iff.1 hclosing with ⟨v, rfl, -⟩
  refine ⟨⟨before.toList, body.toList, after.toList⟩, v, ⟨?_, hblank, ?_, hline, hblank'⟩, ?_⟩
  · simp [Hole.raw, Hole.inner]
  · intro hnil
    have hbodynil : body.toList = [] := hnil
    simp [hs, he, hbodynil] at hlt
  · rcases m with ⟨s, e, g⟩
    simp only [Hole.placement, Placement.mk.injEq] at hs he hg ⊢
    simp only [Text.utf8Length_append] at hs he hg
    omega

end Placement

namespace Hole.Reads

variable {v rest : List Char} {h : Hole}

theorem text_parts (hr : h.Reads d v rest) :
    v = d.opening ++ (h.before ++ (h.body ++ (h.after ++ (d.closing ++ rest)))) := by
  simpa [Hole.raw, Hole.inner] using hr.text

theorem span_body (hr : h.Reads d v rest) (u : List Char) :
    Span (String.ofList (u ++ v)) (h.placement d (utf8Length u)).bodyStart
      (h.placement d (utf8Length u)).bodyStop (String.ofList h.body) :=
  Text.span_of_eq (u := u ++ d.opening ++ h.before) (v := h.after ++ (d.closing ++ rest))
    (by simp [hr.text_parts]) (by simp [Hole.placement, Nat.add_assoc]) rfl

theorem fits (hr : h.Reads d v rest) (u : List Char) :
    (h.placement d (utf8Length u)).Fits d (String.ofList (u ++ v)) (utf8Length u) where
  opening := Text.span_of_eq (v := h.inner ++ (d.closing ++ rest))
    (by simp [hr.text_parts, Hole.inner]) rfl rfl
  before := by
    refine ⟨String.ofList h.before, ?_, by simpa [Text.blankString] using hr.before_blank⟩
    exact Text.span_of_eq (u := u ++ d.opening) (v := h.body ++ (h.after ++ (d.closing ++ rest)))
      (by simp [hr.text_parts]) (by simp) rfl
  body_lt := by
    have hbody := Text.utf8Length_pos hr.body_ne
    simp only [Hole.placement]
    omega
  body := ⟨String.ofList h.body, hr.span_body u, by simpa using hr.body_line⟩
  after := by
    refine ⟨String.ofList h.after, ?_, by simpa [Text.blankString] using hr.after_blank⟩
    exact Text.span_of_eq (u := u ++ d.opening ++ h.before ++ h.body) (v := d.closing ++ rest)
      (by simp [hr.text_parts]) (by simp [Hole.placement, Nat.add_assoc]) rfl
  closing :=
    Text.span_of_eq (u := u ++ d.opening ++ h.before ++ h.body ++ h.after) (v := rest)
      (by simp [hr.text_parts]) (by simp [Hole.placement, Nat.add_assoc]) rfl

end Hole.Reads

namespace Placement

variable {u v : List Char} {m : Placement}

theorem fits_iff :
    m.Fits d (String.ofList (u ++ v)) (utf8Length u) ↔
      ∃ h rest, Hole.Reads d v h rest ∧ m = h.placement d (utf8Length u) := by
  constructor
  · exact Fits.exists_reads
  · rintro ⟨h, rest, hr, rfl⟩
    exact hr.fits u

/-- The best placement is the one that `hole?` finds. -/
theorem best_iff :
    m.Best d (String.ofList (u ++ v)) (utf8Length u) ↔
      ∃ h rest, hole? d v = some (h, rest) ∧ m = h.placement d (utf8Length u) := by
  constructor
  · intro hm
    rcases hm.fits.exists_reads with ⟨h, rest, hr, rfl⟩
    refine ⟨h, rest, hole?_eq_some_iff.2 ⟨hr, ?_⟩, rfl⟩
    intro g rest' hg
    exact Hole.outranks_placement.1 (hm.outranks _ (hg.fits u))
  · rintro ⟨h, rest, hfound, rfl⟩
    rcases hole?_eq_some_iff.1 hfound with ⟨hr, hbest⟩
    refine ⟨hr.fits u, ?_⟩
    intro n hn
    rcases hn.exists_reads with ⟨g, rest', hg, rfl⟩
    exact Hole.outranks_placement.2 (hbest g rest' hg)

end Placement

/-! ## The scan of a template -/

/-- Where `hole?` finds a placeholder, the reference scan takes it too. -/
theorem scanned_hole {u v rest : List Char} {h : Hole} {ps : List Placeholder}
    (hfound : hole? d v = some (h, rest))
    (hrest : Scanned d (String.ofList (u ++ v)) (utf8Length u + utf8Length (h.raw d)) ps) :
    Scanned d (String.ofList (u ++ v)) (utf8Length u)
      (⟨utf8Length u, utf8Length u + utf8Length (h.raw d), String.ofList (h.raw d),
        String.ofList h.expression⟩ :: ps) := by
  have hr := reads_of_hole? hfound
  have hraw : Span (String.ofList (u ++ v)) (utf8Length u)
      (utf8Length u + utf8Length (h.raw d)) (String.ofList (h.raw d)) :=
    Text.span_of_eq (v := rest) (by rw [hr.text]) rfl rfl
  have hbest := (Placement.best_iff (u := u)).2 ⟨h, rest, hfound, rfl⟩
  rw [← Hole.stop_placement] at hraw hrest ⊢
  have hnext := Scanned.next (Nat.le_refl _) (fun j n hle hlt => by omega) hbest hraw
    (hr.span_body u) hrest
  simpa [Text.trimString, Hole.expression] using hnext

/-- Where `hole?` finds none, the reference scan goes on behind the next character. -/
theorem scanned_char {u v : List Char} {c : Char} {ps : List Placeholder}
    (hnone : hole? d (c :: v) = none)
    (hrest : Scanned d (String.ofList (u ++ c :: v)) (utf8Length u + c.utf8Size) ps) :
    Scanned d (String.ofList (u ++ c :: v)) (utf8Length u) ps := by
  refine hrest.back (Nat.le_add_right _ _) ?_
  intro j n hle hlt hfits
  rcases Text.start_of_span_cons hfits.opening with hj | hj
  · have hju : j = utf8Length u := by omega
    subst hju
    rcases Placement.fits_iff.1 hfits with ⟨h, rest, hr, -⟩
    exact hole?_eq_none_iff.1 hnone h rest hr
  · omega

/-- From the end of any beginning of a text on, `scan` and `locate` follow the reference scan. -/
theorem scanned_locate (u v : List Char) :
    Scanned d (String.ofList (u ++ v)) (utf8Length u) (locate d (utf8Length u) (scan d v)) := by
  induction v using scan.induct (d := d) generalizing u with
  | case1 v h rest hfound ih =>
      have hrest := ih (u ++ h.raw d)
      rw [List.append_assoc, ← eq_of_hole? hfound, Text.utf8Length_append] at hrest
      rw [scan_of_some hfound]
      exact scanned_hole hfound hrest
  | case2 hnone =>
      rw [scan_nil]
      refine .done ?_
      intro i m hi hm
      -- the delimiters of a placeholder do not fit behind the end of the text
      have hsize := hm.size_lt
      have hstop := hm.closing.stop_le
      rw [← Text.utf8Length_toList, String.toList_ofList, List.append_nil] at hstop
      omega
  | case3 c rest hnone ih =>
      have hrest := ih (u ++ [c])
      rw [List.append_assoc, Text.utf8Length_append] at hrest
      rw [scan_of_none hnone]
      exact scanned_char hnone (by simpa [locate] using hrest)

theorem scanned_placeholders (d : Delimiters) (content : String) :
    Scanned d content 0 (placeholders d content) := by
  simpa [placeholders] using scanned_locate (d := d) [] content.toList

/-- The placeholders of a template are those of the reference scan from its first byte on.  Their
ranges follow one another, begin and end between characters, and hold the placeholders as they are
written; no place where a placeholder fits is left out, and every placeholder is longer than its
delimiters. -/
theorem scanned_iff_placeholders (d : Delimiters) (content : String) :
    (∀ ps, Scanned d content 0 ps ↔ ps = placeholders d content) ∧
      ((placeholders d content).Pairwise fun p q => p.stop ≤ q.start) ∧
      (∀ p ∈ placeholders d content,
        p.start < p.stop ∧
        String.Pos.Raw.IsValid content ⟨p.start⟩ ∧ String.Pos.Raw.IsValid content ⟨p.stop⟩ ∧
        p.raw = String.Pos.Raw.extract content ⟨p.start⟩ ⟨p.stop⟩) ∧
      (∀ i m, Placement.Fits d content i m →
        (∃ p ∈ placeholders d content, p.start ≤ i ∧ i < p.stop) ∧
        i + utf8Length d.opening + utf8Length d.closing < m.stop d) := by
  have hscan := scanned_placeholders d content
  refine ⟨?_, hscan.pairwise_range, ?_, ?_⟩
  · intro ps
    constructor
    · intro h
      exact h.unique hscan
    · rintro rfl
      exact hscan
  · intro p hp
    have hspan := hscan.span_of_mem p hp
    exact ⟨(hscan.range_of_mem p hp).2, hspan.isValid_start, hspan.isValid_stop,
      hspan.extract_eq.symm⟩
  · intro i m hm
    exact ⟨hscan.exists_mem_of_fits hm (Nat.zero_le i), hm.size_lt⟩

end FormTemplate
