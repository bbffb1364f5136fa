import Mathlib.Tactic.IntervalCases
import FormTemplate.Proofs.Placeholder.Bodies

/-!
# Assembly — placeholders that an author puts together with text

A template can be made from placeholders and the text between them.  What its author has to see to
for the placeholders to be read back is said here, whatever the delimiters are.

* `Hole.WellFormed` — what a placeholder must be like: the closing delimiter occurs nowhere inside;
* `hole?_raw_append` — such a placeholder is found where it is written, whatever follows it;
* `Segment`, `assemble` — placeholders with the text in front of each, and the template they make;
* `GapsUnopened` — what the text between them must be like: no opening delimiter starts there;
* `placeholders_assemble` — the placeholders of the template are those it was made from.

The closing delimiter must not begin with a blank, since padding could swallow a part of it.
-/

namespace FormTemplate

open Text (StartsNowhere Trimmed allBlank isBlank utf8Length)

variable {d : Delimiters}

/-! ## Well-formed placeholders -/

/-- Padding of blanks around a body on one line, and no closing delimiter before the last one: none
starts in the body behind its first character. -/
structure Hole.WellFormed (d : Delimiters) (h : Hole) : Prop where
  before_blank : allBlank h.before = true
  body_ne : h.body ≠ []
  body_trimmed : Trimmed h.body
  body_line : '\n' ∉ h.body
  after_blank : allBlank h.after = true
  closing_once : ∀ k, 0 < k → k < h.body.length →
    ¬ d.closing <+: (h.body ++ h.after ++ d.closing).drop k

theorem Hole.WellFormed.reads {h : Hole} (hh : h.WellFormed d) (rest : List Char) :
    h.Reads d (h.raw d ++ rest) rest :=
  ⟨rfl, hh.before_blank, hh.body_ne, hh.body_line, hh.after_blank⟩

theorem Hole.WellFormed.expression_eq {h : Hole} (hh : h.WellFormed d) : h.expression = h.body :=
  hh.body_trimmed.trim_eq

/-- The blanks behind a shorter body end inside a body that does not end with one, so that is where
the closing delimiter of the shorter one starts. -/
theorem Hole.Reads.exists_closing_in_body {rest r : List Char} {h g : Hole}
    (hlast : ∀ c ∈ h.body.getLast?, isBlank c = false) (hg : g.Reads d (h.raw d ++ rest) r)
    (hbefore : g.before = h.before) (hlt : utf8Length g.body < utf8Length h.body) :
    ∃ y, y ≠ [] ∧ h.body = g.body ++ g.after ++ y ∧
      y ++ (h.after ++ (d.closing ++ rest)) = d.closing ++ r := by
  have htext : g.body ++ (g.after ++ (d.closing ++ r)) =
      h.body ++ (h.after ++ (d.closing ++ rest)) := by
    have hraw := hg.text
    simpa [Hole.raw, Hole.inner, hbefore] using hraw.symm
  rcases Text.exists_of_append_eq htext hlt.le with ⟨y, hbody, htext⟩
  -- `y` is what the shorter body lacks; it ends without a blank, so the padding ends inside it
  rcases List.eq_nil_or_concat' y with rfl | ⟨y, c, rfl⟩
  · simp [hbody] at hlt
  · have hc : isBlank c = false := hlast c (by simp [hbody])
    have hcut : y ++ ([c] ++ (h.after ++ (d.closing ++ rest))) = g.after ++ (d.closing ++ r) := by
      simpa using htext.symm
    have hafter := utf8Length_le_of_blank hcut (List.cons_ne_nil c []) (by simpa using hc)
      hg.after_blank
    rcases Text.exists_of_append_eq hcut.symm hafter with ⟨z, rfl, hclose⟩
    exact ⟨z ++ [c], by simp, by simp [hbody], by simpa using hclose.symm⟩

theorem Hole.WellFormed.not_shorter {rest r : List Char} {h g : Hole} (hh : h.WellFormed d)
    (hg : g.Reads d (h.raw d ++ rest) r) (hbefore : g.before = h.before) :
    ¬ utf8Length g.body < utf8Length h.body := by
  intro hlt
  rcases hg.exists_closing_in_body hh.body_trimmed.last hbefore hlt with ⟨y, hy, hbody, hclose⟩
  -- the closing delimiter of the shorter body ends where that of the longer one does, or before
  have hpos := List.length_pos_iff.2 hg.body_ne
  have hpos' := List.length_pos_iff.2 hy
  refine hh.closing_once (g.body ++ g.after).length ?_ ?_ ?_
  · simp only [List.length_append]
    omega
  · simp only [hbody, List.length_append]
    omega
  · have hdrop : (h.body ++ h.after ++ d.closing).drop (g.body ++ g.after).length =
        y ++ (h.after ++ d.closing) := by
      rw [hbody, List.append_assoc, List.append_assoc, List.drop_left]
    have hlong : y ++ (h.after ++ d.closing) <+: d.closing ++ r := by
      rw [← hclose]
      exact ⟨rest, by simp⟩
    rw [hdrop]
    refine List.prefix_of_prefix_length_le (List.prefix_append _ r) hlong ?_
    simp only [List.length_append]
    omega

theorem hole?_raw_append {h : Hole} (hclosing : ∀ c ∈ d.closing.head?, isBlank c = false)
    (hh : h.WellFormed d) (rest : List Char) : hole? d (h.raw d ++ rest) = some (h, rest) := by
  have hr := hh.reads rest
  refine hole?_eq_some_iff.2 ⟨hr, ?_⟩
  -- the body starts without a blank, so another reading can only win by a shorter body
  intro g r hg
  exact hr.outranks_of_nonblank hclosing hh.body_trimmed.head hg (hh.not_shorter hg)

/-! ## Text between placeholders -/

theorem hole?_of_not_isPrefix {t : List Char} (hopen : ¬ d.opening <+: t) : hole? d t = none := by
  rw [hole?, Text.dropPrefix?_eq_none_iff.2 hopen]
  rfl

/-- A text in which no opening delimiter starts is passed over. -/
theorem scan_append_of_startsNowhere {gap t : List Char} (hgap : StartsNowhere d.opening gap t) :
    scan d (gap ++ t) = gap.map .char ++ scan d t := by
  induction gap with
  | nil => rfl
  | cons c gap ih =>
      rcases Text.startsNowhere_cons.1 hgap with ⟨hhead, htail⟩
      rw [List.cons_append, scan_of_none (hole?_of_not_isPrefix hhead), ih htail]
      rfl

theorem locate_map_char (start : Nat) (gap : List Char) (ps : List Piece) :
    locate d start (gap.map .char ++ ps) = locate d (start + utf8Length gap) ps := by
  induction gap generalizing start with
  | nil => rfl
  | cons c gap ih => simpa [locate, Nat.add_assoc] using ih (start + c.utf8Size)

/-! ## Assembled templates -/

/-- A placeholder and the text between it and the one before it. -/
structure Segment where
  gap : List Char
  hole : Hole

/-- The template made of segments and the text behind the last of them. -/
def assemble (d : Delimiters) (last : List Char) : List Segment → List Char
  | [] => last
  | s :: segments => s.gap ++ (s.hole.raw d ++ assemble d last segments)

/-- In the assembled template no opening delimiter starts outside of the placeholders. -/
def GapsUnopened (d : Delimiters) (last : List Char) : List Segment → Prop
  | [] => StartsNowhere d.opening last []
  | s :: segments =>
    StartsNowhere d.opening s.gap (s.hole.raw d ++ assemble d last segments) ∧
      GapsUnopened d last segments

/-- The placeholders of the segments, the first of which starts at byte `start`. -/
def assembled (d : Delimiters) (start : Nat) : List Segment → List Placeholder
  | [] => []
  | s :: segments =>
    let first := start + utf8Length s.gap
    let stop := first + utf8Length (s.hole.raw d)
    ⟨first, stop, String.ofList (s.hole.raw d), String.ofList s.hole.body⟩ ::
      assembled d stop segments

theorem locate_scan_assemble {last : List Char} {segments : List Segment}
    (hclosing : ∀ c ∈ d.closing.head?, isBlank c = false) (hgaps : GapsUnopened d last segments)
    (hholes : ∀ s ∈ segments, s.hole.WellFormed d) (start : Nat) :
    locate d start (scan d (assemble d last segments)) = assembled d start segments := by
  induction segments generalizing start with
  | nil =>
      have hscan := scan_append_of_startsNowhere hgaps
      have hlocate := locate_map_char (d := d) start last []
      simp only [List.append_nil, scan_nil] at hscan hlocate
      rw [assemble, hscan, hlocate]
      rfl
  | cons s segments ih =>
      rcases hgaps with ⟨hgap, hgaps⟩
      have hs := hholes s List.mem_cons_self
      have hfound := hole?_raw_append hclosing hs (assemble d last segments)
      -- the gap moves the start, and the placeholder is found as it was written
      rw [assemble, scan_append_of_startsNowhere hgap, locate_map_char, scan_of_some hfound]
      simp only [locate, assembled, hs.expression_eq]
      rw [ih hgaps fun s' hs' => hholes s' (List.mem_cons_of_mem s hs')]

/-- The placeholders of an assembled template are those it was made from, at the places where they
were put and with their bodies for expressions. -/
theorem placeholders_assemble (d : Delimiters) (segments : List Segment) (last : List Char)
    (hclosing : ∀ c ∈ d.closing.head?, isBlank c = false) (hgaps : GapsUnopened d last segments)
    (hholes : ∀ s ∈ segments, s.hole.WellFormed d) :
    placeholders d (String.ofList (assemble d last segments)) = assembled d 0 segments := by
  rw [placeholders, String.toList_ofList]
  exact locate_scan_assemble hclosing hgaps hholes 0

/-- Padding across a line end, an opening delimiter in a body, and single braces everywhere. -/
theorem placeholders_assemble_braces :
    let segments : List Segment :=
      [⟨['{', ' '], ⟨['\n', ' '], ['a', '{', '{', 'b'], []⟩⟩,
        ⟨['}', '-'], ⟨[], ['c', '}', 'd'], [' ']⟩⟩]
    let last := ['}', '}', ' ', '{']
    (∀ c ∈ Delimiters.standard.closing.head?, isBlank c = false) ∧
      GapsUnopened .standard last segments ∧
      (∀ s ∈ segments, s.hole.WellFormed .standard) ∧
      placeholders .standard (String.ofList (assemble .standard last segments)) =
        [⟨2, 12, "\x7b\x7b\n a\x7b\x7bb\x7d\x7d", "a\x7b\x7bb"⟩,
          ⟨14, 22, "\x7b\x7bc\x7dd \x7d\x7d", "c\x7dd"⟩] := by
  intro segments last
  have hclosing := trimmed_closing_standard.head
  have hgaps : GapsUnopened .standard last segments := by
    simp only [segments, last, GapsUnopened, Text.startsNowhere_cons, Text.startsNowhere_nil]
    decide
  have hholes : ∀ s ∈ segments, s.hole.WellFormed .standard := by
    intro s hs
    simp only [segments, List.mem_cons, List.not_mem_nil, or_false] at hs
    rcases hs with rfl | rfl
    · refine ⟨rfl, by decide, ⟨?_, ?_⟩, by decide, rfl, ?_⟩
      · rintro c ⟨⟩
        rfl
      · rintro c ⟨⟩
        rfl
      intro k hk hlt
      have hbound : k < 4 := hlt
      interval_cases k <;> decide
    · refine ⟨rfl, by decide, ⟨?_, ?_⟩, by decide, rfl, ?_⟩
      · rintro c ⟨⟩
        rfl
      · rintro c ⟨⟩
        rfl
      intro k hk hlt
      have hbound : k < 3 := hlt
      interval_cases k <;> decide
  refine ⟨hclosing, hgaps, hholes, ?_⟩
  rw [placeholders_assemble .standard segments last hclosing hgaps hholes]
  rfl

end FormTemplate
