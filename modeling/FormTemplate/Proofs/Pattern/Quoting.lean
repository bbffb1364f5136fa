import FormTemplate.Delimiters
import FormTemplate.Proofs.Text.Span

/-!
# Quoting — the pattern of placeholders with given delimiters

The delimiters are quoted in the pattern of placeholders, and a quoted text is read as the row of its
characters.  So there is always such a pattern, and all that can be against it is its size, of which
the delimiters have a fixed share for each of their bytes.

* `elements?_quote` — reading a quoted text, by induction on the text;
* `read?_patternText` — the pattern that a pattern text denotes;
* `Unicode.rows_singleton`, `bytes_char` — the room of one character;
* `bytes_sequence` — the room of a row of patterns is that of its parts together;
* `Delimiters.compile_patternText` — which delimiters have a usable pattern;
* `Delimiters.make_standard` — the standard delimiters are among them.

That the pattern matches what `placeholders` finds is not shown here.
-/

namespace FormTemplate
namespace Pattern

/-! ## Leaves -/

/-- The signs that do not start a leaf. -/
def operators : List Char :=
  ['|', ')', '?', '*', '+', '{', '[', '(']

theorem mem_signs_of_mem_operators : ∀ c ∈ operators, c ∈ signs := by
  simp [operators, signs]

theorem leaf?_sign {c : Char} (hc : c ∈ signs) (t : List Char) :
    leaf? {} ('\\' :: c :: t) = some (char {} c, t) := by
  have hescape : escape? {} (c :: t) = some (.literal c, t) := by
    simp only [signs, List.mem_cons, List.not_mem_nil, or_false] at hc
    rcases hc with rfl | rfl | rfl | rfl | rfl | rfl | rfl | rfl | rfl | rfl | rfl | rfl | rfl | rfl |
      rfl | rfl | rfl | rfl <;> rfl
  rw [leaf?, hescape]
  rfl

theorem leaf?_plain {c : Char} (hc : c ∉ signs) (t : List Char) :
    leaf? {} (c :: t) = some (char {} c, t) := by
  simp only [signs, List.mem_cons, List.not_mem_nil, or_false, not_or] at hc
  unfold leaf?
  split <;> simp_all

/-! ## Quoted texts -/

/-- A character that stands for itself. -/
def literal (c : Char) : Element :=
  .term (.leaf (char {} c))

section Reading

variable (fuel : Nat) (es : List Element) (names : List (List Char))

theorem elements?_leaf {c : Char} (hc : c ∉ operators) {t rest : List Char} {p : Pattern Atom}
    (hleaf : leaf? {} (c :: t) = some (p, rest)) :
    elements? (fuel + 1) es ⟨c :: t, {}, names⟩ =
      elements? fuel (.term (.leaf p) :: es) ⟨rest, {}, names⟩ := by
  simp only [operators, List.mem_cons, List.not_mem_nil, or_false, not_or] at hc
  rw [elements?]
  simp only [Flags.skip, Bool.false_eq_true, if_false]
  -- every case but the last is about an operator
  split <;> simp_all

/-- A quoted character is one step, with or without a backslash. -/
theorem elements?_quote_cons (c : Char) (t rest : List Char) :
    elements? (fuel + 1) es ⟨quote (c :: t) ++ rest, {}, names⟩ =
      elements? fuel (literal c :: es) ⟨quote t ++ rest, {}, names⟩ := by
  rw [quote]
  by_cases hc : c ∈ signs
  -- a backslash is no operator itself
  · rw [if_pos (List.contains_iff_mem.2 hc)]
    exact elements?_leaf fuel es names (by decide) (leaf?_sign hc (quote t ++ rest))
  · rw [if_neg (mt List.contains_iff_mem.1 hc)]
    have hoperator := mt (mem_signs_of_mem_operators c) hc
    exact elements?_leaf fuel es names hoperator (leaf?_plain hc (quote t ++ rest))

theorem elements?_quote (t rest : List Char) :
    elements? (t.length + fuel) es ⟨quote t ++ rest, {}, names⟩ =
      elements? fuel ((t.map literal).reverse ++ es) ⟨rest, {}, names⟩ := by
  induction t generalizing es with
  | nil => rw [List.length_nil, Nat.zero_add, quote, List.map_nil, List.reverse_nil]; rfl
  | cons c t ih =>
      have hfuel : (c :: t).length + fuel = t.length + fuel + 1 := by
        rw [List.length_cons]
        omega
      rw [hfuel, elements?_quote_cons, ih, List.map_cons, List.reverse_cons, List.append_assoc]
      rfl

/-! ## The pattern of placeholders -/

def blanks : Pattern Atom :=
  .repetition (.atom (.oneOf (letterSet?.space true))) 0 none

def body : Pattern Atom :=
  .group (.repetition (.atom (.oneOf (Unicode.CharSet.singleton '\n').compl)) 1 none)

theorem elements?_body (rest : List Char) :
    elements? (fuel + 10) es ⟨Delimiters.bodyText ++ rest, {}, names⟩ =
      elements? (fuel + 5) (.term ⟨blanks, 1⟩ :: .term ⟨body, 2⟩ :: .term ⟨blanks, 1⟩ :: es)
        ⟨skipLazy rest, {}, names⟩ :=
  rfl

/-- A question mark would belong to the repetition in front, but a quoted one has its backslash. -/
theorem skipLazy_quote (t : List Char) : skipLazy (quote t) = quote t := by
  cases t with
  | nil => rfl
  | cons c t =>
      rw [quote]
      split
      case isTrue => rfl
      case isFalse hc =>
        have hmark : c ≠ '?' := by
          rintro rfl
          exact hc (by decide)
        unfold skipLazy
        split <;> simp_all

theorem elements?_nil : elements? (fuel + 1) es ⟨[], {}, names⟩ = some (es, ⟨[], {}, names⟩) :=
  rfl

end Reading

theorem length_le_length_quote (t : List Char) : t.length ≤ (quote t).length := by
  induction t with
  | nil => exact Nat.le_refl _
  | cons c t ih =>
      rw [quote]
      split <;> simp only [List.length_cons] <;> omega

/-- The terms of the pattern, in their order. -/
def placeholderTerms (opening closing : List Char) : List Term :=
  opening.map (fun c => .leaf (char {} c)) ++ [⟨blanks, 1⟩, ⟨body, 2⟩, ⟨blanks, 1⟩] ++
    closing.map fun c => .leaf (char {} c)

theorem alternatives?_patternText (opening closing : List Char) (fuel : Nat) :
    alternatives? (opening.length + (closing.length + fuel + 10) + 1)
        ⟨quote opening ++ Delimiters.bodyText ++ quote closing, {}, []⟩ =
      some ([Term.joined sequence (placeholderTerms opening closing)], ⟨[], {}, []⟩) := by
  -- elements are collected in reverse, the last one first
  have hclosing := elements?_quote (fuel + 5)
    (.term ⟨blanks, 1⟩ :: .term ⟨body, 2⟩ :: .term ⟨blanks, 1⟩ :: (opening.map literal).reverse) []
    closing []
  rw [List.append_nil] at hclosing
  rw [alternatives?, List.append_assoc, elements?_quote, elements?_body, skipLazy_quote, List.append_nil,
    Nat.add_assoc closing.length, hclosing, elements?_nil]
  simp [placeholderTerms, Element.toTerm, literal, Function.comp_def]

theorem Term.joined_of_two_le {join : List (Pattern Atom) → Pattern Atom} {ts : List Term}
    (h : 2 ≤ ts.length) :
    joined join ts = ⟨join (ts.map Term.pattern), (ts.map Term.depth).foldl max 0 + 1⟩ := by
  match ts with
  | [] => simp at h
  | [t] => simp at h
  | _ :: _ :: _ => rfl

theorem foldl_max_le {ns : List Nat} {a b : Nat} (ha : a ≤ b) (hns : ∀ n ∈ ns, n ≤ b) :
    ns.foldl max a ≤ b := by
  induction ns generalizing a with
  | nil => exact ha
  | cons n ns ih =>
      exact ih (Nat.max_le.2 ⟨ha, hns n List.mem_cons_self⟩) fun m hm =>
        hns m (List.mem_cons_of_mem n hm)

/-- The pattern that placeholders are found by. -/
def placeholder (opening closing : List Char) : Pattern Atom :=
  sequence (opening.map (char {}) ++ [blanks, body, blanks] ++ closing.map (char {}))

theorem joined_placeholderTerms (opening closing : List Char) :
    ∃ depth ≤ 3, Term.joined sequence (placeholderTerms opening closing) =
      ⟨placeholder opening closing, depth⟩ := by
  have hdepths : ∀ t ∈ placeholderTerms opening closing, t.depth ≤ 2 := by
    intro t ht
    simp only [placeholderTerms, List.mem_append, List.mem_map] at ht
    obtain (⟨c, -, rfl⟩ | hmiddle) | ⟨c, -, rfl⟩ := ht
    · exact Nat.zero_le 2
    · simp only [List.mem_cons, List.not_mem_nil, or_false] at hmiddle
      rcases hmiddle with rfl | rfl | rfl <;> decide
    · exact Nat.zero_le 2
  -- a row is one level deeper than the deepest of its terms
  refine ⟨_, Nat.succ_le_succ (foldl_max_le (Nat.zero_le 2) (List.forall_mem_map.2 hdepths)), ?_⟩
  rw [Term.joined_of_two_le (by simp [placeholderTerms]; omega), placeholder]
  simp [placeholderTerms, Function.comp_def, Term.leaf]

theorem read?_patternText (opening closing : String) :
    read? (Delimiters.patternText opening closing).toList =
      some (placeholder opening.toList closing.toList) := by
  have hopening := length_le_length_quote opening.toList
  have hclosing := length_le_length_quote closing.toList
  let length := (quote opening.toList ++ Delimiters.bodyText ++ quote closing.toList).length
  have hlength : length = (quote opening.toList).length + 11 + (quote closing.toList).length := by
    simp only [length, List.length_append]
    rfl
  -- three units of fuel for each character are more than enough
  have hfuel : 3 * length + 3 = opening.toList.length + (closing.toList.length +
      (3 * length + 3 - (opening.toList.length + closing.toList.length + 11)) + 10) + 1 := by
    omega
  obtain ⟨depth, hdepth, hjoined⟩ := joined_placeholderTerms opening.toList closing.toList
  have hallowed : depth ≤ maxNesting := Nat.le_trans hdepth (by decide)
  rw [read?, Delimiters.patternText, String.toList_ofList, hfuel, alternatives?_patternText, hjoined]
  simp [Term.joined, hallowed]

end Pattern

/-! ## The room of a character -/

namespace Unicode

/-- A single value has a single row, of one byte and those after it. -/
theorem rowsFrom_self (n base v : Nat) :
    ∃ row : ByteRow, rowsFrom n base v v = [row] ∧ row.length = n + 1 := by
  induction n generalizing base v with
  | zero => exact ⟨_, rfl, rfl⟩
  | succ n ih =>
      obtain ⟨row, hrow, hlength⟩ := ih 0x80 (v % Nat.pow 64 (n + 1))
      refine ⟨(base + v / Nat.pow 64 (n + 1), base + v / Nat.pow 64 (n + 1)) :: row, ?_, ?_⟩
      · simp only [rowsFrom, if_true, hrow, List.map_cons, List.map_nil]
      · rw [List.length_cons, hlength]

theorem utf8Size_eq (c : Char) :
    c.utf8Size = if c.toNat ≤ 0x7F then 1 else if c.toNat ≤ 0x7FF then 2
      else if c.toNat ≤ 0xFFFF then 3 else 4 :=
  rfl

/-- A character is in one of the blocks only. -/
theorem exists_rows_singleton (c : Char) :
    ∃ n mark, (CharSet.singleton c).rows = rowsFrom n mark c.toNat c.toNat ∧
      n + 1 = c.utf8Size := by
  have hblock : ∀ n mark first last : Nat,
      (if max c.toNat first ≤ min c.toNat last then
          rowsFrom n mark (max c.toNat first) (min c.toNat last) else []) =
        if first ≤ c.toNat ∧ c.toNat ≤ last then rowsFrom n mark c.toNat c.toNat else [] := by
    intro n mark first last
    split
    case isTrue hwithin =>
      have hlo : max c.toNat first = c.toNat := by
        omega
      have hhi : min c.toNat last = c.toNat := by
        omega
      rw [if_pos (by omega), hlo, hhi]
    case isFalse => rw [if_neg (by omega)]
  simp only [CharSet.rows, CharSet.singleton, CharRange.rows, encodingBlocks, List.flatMap_cons,
    List.flatMap_nil, hblock, utf8Size_eq]
  have hvalid : c.toNat < 0xD800 ∨ 0xDFFF < c.toNat ∧ c.toNat < 0x110000 := c.valid
  by_cases hone : c.toNat ≤ 0x7F
  · exact ⟨0, 0, by simp (disch := omega) [if_pos, if_neg]⟩
  by_cases htwo : c.toNat ≤ 0x7FF
  · exact ⟨1, 0xC0, by simp (disch := omega) [if_pos, if_neg]⟩
  by_cases hthree : c.toNat ≤ 0xFFFF
  · refine ⟨2, 0xE0, ?_⟩
    -- below or above the surrogates
    rcases hvalid with hbelow | ⟨habove, -⟩
    · simp (disch := omega) [if_pos, if_neg]
    · simp (disch := omega) [if_pos, if_neg]
  · exact ⟨3, 0xF0, by simp (disch := omega) [if_pos, if_neg]⟩

theorem rows_singleton (c : Char) :
    ∃ row : ByteRow, (CharSet.singleton c).rows = [row] ∧ row.length = c.utf8Size := by
  obtain ⟨n, mark, hrows, hsize⟩ := exists_rows_singleton c
  obtain ⟨row, hrow, hlength⟩ := rowsFrom_self n mark c.toNat
  exact ⟨row, hrows.trans hrow, hlength.trans hsize⟩

end Unicode

/-! ## The room of a row of patterns -/

theorem Text.total_append (ms ns : List Nat) : total (ms ++ ns) = total ms + total ns := by
  induction ms with
  | nil => exact (Nat.zero_add _).symm
  | cons m ms ih =>
      have hcons : ∀ ns : List Nat, total (m :: ns) = m + total ns := fun _ => rfl
      rw [List.cons_append, hcons, hcons, ih, Nat.add_assoc]

namespace Footprint

variable (d : Direction)

theorem bytes_char (c : Char) :
    (ofPattern d (Pattern.char {} c)).bytes = stateBytes * c.utf8Size := by
  obtain ⟨row, hrows, hlength⟩ := Unicode.rows_singleton c
  have hsingle : (Unicode.CharSet.singleton c).isSingleton = true := by
    simp [Unicode.CharSet.isSingleton, Unicode.CharSet.singleton]
  have hset : d.setBytes (Unicode.CharSet.singleton c) = stateBytes * c.utf8Size := by
    simp only [Direction.setBytes, hsingle, if_true, hrows, List.map_cons, List.map_nil, hlength]
    rfl
  exact hset

theorem sequence_ne_empty {ps : List (Pattern Atom)} (hne : ps ≠ []) (hparts : .empty ∉ ps) :
    Pattern.sequence ps ≠ .empty := by
  match ps with
  | [] => exact absurd rfl hne
  | [p] =>
    rintro rfl
    exact hparts List.mem_cons_self
  | _ :: _ :: _ => exact nofun

/-- Nothing is shared between the parts of a row. -/
theorem bytes_sequence {ps : List (Pattern Atom)} (hne : ps ≠ []) (hparts : .empty ∉ ps) :
    (ofPattern d (Pattern.sequence ps)).bytes =
      Text.total (ps.map fun p => (ofPattern d p).bytes) := by
  induction ps with
  | nil => exact absurd rfl hne
  | cons p ps ih =>
      cases ps with
      | nil => rfl
      | cons q ps =>
          have hp : p ≠ .empty := fun h => hparts (h ▸ List.mem_cons_self)
          have hrest : .empty ∉ q :: ps := fun h => hparts (List.mem_cons_of_mem p h)
          have hbytes := ih (List.cons_ne_nil q ps) hrest
          -- the parts of a concatenation are counted apart unless one of them is empty
          rw [Pattern.sequence, ofPattern]
          · simp only [simple, hbytes]
            rfl
          · exact hp
          · exact sequence_ne_empty (List.cons_ne_nil q ps) hrest

theorem total_bytes_chars (t : List Char) :
    Text.total ((t.map (Pattern.char {})).map fun p => (ofPattern d p).bytes) =
      stateBytes * Text.utf8Length t := by
  induction t with
  | nil => rfl
  | cons c t ih =>
      rw [Text.utf8Length_cons, Nat.mul_add, ← bytes_char d c, ← ih]
      rfl

theorem bytes_placeholder (opening closing : List Char) :
    (ofPattern d (Pattern.placeholder opening closing)).bytes =
      stateBytes * (Text.utf8Length opening + Text.utf8Length closing) +
        (ofPattern d (Pattern.sequence [Pattern.blanks, Pattern.body, Pattern.blanks])).bytes := by
  have hchars : ∀ t : List Char, Pattern.empty ∉ t.map (Pattern.char {}) := by
    intro t
    simp [Pattern.char]
  have hmiddle : Pattern.empty ∉ [Pattern.blanks, Pattern.body, Pattern.blanks] := by
    simp [Pattern.blanks, Pattern.body]
  have hparts : Pattern.empty ∉ opening.map (Pattern.char {}) ++
      [Pattern.blanks, Pattern.body, Pattern.blanks] ++ closing.map (Pattern.char {}) := by
    simp only [List.mem_append, not_or]
    exact ⟨⟨hchars opening, hmiddle⟩, hchars closing⟩
  rw [Pattern.placeholder, bytes_sequence d (by simp) hparts,
    bytes_sequence d (List.cons_ne_nil _ _) hmiddle, List.map_append, List.map_append,
    Text.total_append, Text.total_append, total_bytes_chars, total_bytes_chars, Nat.mul_add]
  omega

end Footprint

/-! ## Delimiters with a usable pattern -/

namespace Delimiters

/-- What a pattern of placeholders takes beside its delimiters, in the automaton that reads backward;
the other one takes less. -/
def bodyBytes : Nat := 2624

theorem fits_placeholder_iff (opening closing : List Char) :
    (Pattern.placeholder opening closing).fits = true ↔
      stateBytes * (Text.utf8Length opening + Text.utf8Length closing) + bodyBytes ≤ sizeLimit := by
  have hforward : (Footprint.ofPattern .forward
      (Pattern.sequence [Pattern.blanks, Pattern.body, Pattern.blanks])).bytes +
        Direction.forward.frameBytes = 1664 := by
    decide +kernel
  have hbackward : (Footprint.ofPattern .backward
      (Pattern.sequence [Pattern.blanks, Pattern.body, Pattern.blanks])).bytes +
        Direction.backward.frameBytes = bodyBytes := by
    decide +kernel
  -- both automata have to fit, and the larger one decides
  rw [bodyBytes] at hbackward
  simp only [Pattern.fits, List.all_cons, List.all_nil, Bool.and_true, Bool.and_eq_true,
    decide_eq_true_eq, Footprint.bytes_placeholder, bodyBytes]
  omega

/-- The pattern for two delimiters is usable unless it is too large, which depends on their length
in bytes alone. -/
theorem compile_patternText (opening closing : String) :
    Pattern.compile (patternText opening closing) =
      if stateBytes * (opening.utf8ByteSize + closing.utf8ByteSize) + bodyBytes ≤ sizeLimit then
        .ok (Pattern.placeholder opening.toList closing.toList)
      else .error .tooLarge := by
  have hfits := fits_placeholder_iff opening.toList closing.toList
  rw [Text.utf8Length_toList, Text.utf8Length_toList] at hfits
  simp only [Pattern.compile, Pattern.read?_patternText, hfits]

theorem compile_patternText_eq_error_iff {opening closing : String} {fault : PatternFault} :
    Pattern.compile (patternText opening closing) = .error fault ↔
      fault = .tooLarge ∧
        sizeLimit < stateBytes * (opening.utf8ByteSize + closing.utf8ByteSize) + bodyBytes := by
  rw [compile_patternText]
  split
  case isTrue hfits => simp [Nat.not_lt.2 hfits]
  case isFalse hlarge => simp [Nat.lt_of_not_le hlarge, eq_comm]

/-- The delimiters of any sensible dialect are far below the limit. -/
theorem exists_compile_patternText {opening closing : String}
    (h : opening.utf8ByteSize + closing.utf8ByteSize ≤ 320000) :
    ∃ q, Pattern.compile (patternText opening closing) = .ok q := by
  refine ⟨_, (compile_patternText opening closing).trans (if_pos ?_)⟩
  simp only [stateBytes, bodyBytes, sizeLimit]
  omega

/-- Delimiters of 330000 bytes together are too large. -/
theorem sizeLimit_lt_of_long {opening closing : String}
    (h : 330000 ≤ opening.utf8ByteSize + closing.utf8ByteSize) :
    sizeLimit < stateBytes * (opening.utf8ByteSize + closing.utf8ByteSize) + bodyBytes := by
  simp only [stateBytes, bodyBytes, sizeLimit]
  omega

theorem make_standard :
    make defaultOpening defaultClosing defaultSeparator = .ok standard := by
  have hshort : defaultOpening.utf8ByteSize + defaultClosing.utf8ByteSize ≤ 320000 := by
    decide
  obtain ⟨q, hq⟩ := exists_compile_patternText hshort
  simp only [make, hq]
  rfl

end Delimiters

/-! ## Texts of any length -/

namespace Text

/-- One character over and over. -/
def repeated (n : Nat) (c : Char) : String :=
  String.ofList (List.replicate n c)

theorem eq_of_mem_repeated {n : Nat} {c d : Char} (hd : d ∈ (repeated n c).toList) : d = c := by
  rw [repeated, String.toList_ofList] at hd
  exact List.eq_of_mem_replicate hd

theorem utf8ByteSize_repeated (n : Nat) (c : Char) :
    (repeated n c).utf8ByteSize = n * c.utf8Size := by
  rw [← utf8Length_toList, repeated, String.toList_ofList]
  induction n with
  | zero => exact (Nat.zero_mul _).symm
  | succ n ih => rw [List.replicate_succ, utf8Length_cons, ih, Nat.succ_mul, Nat.add_comm]

theorem repeated_ne_empty {n : Nat} (hn : n ≠ 0) (c : Char) : repeated n c ≠ "" := by
  intro hempty
  have hsize := utf8ByteSize_repeated n c
  rw [hempty] at hsize
  exact Nat.mul_ne_zero hn (Nat.ne_of_gt c.utf8Size_pos) hsize.symm

end Text
end FormTemplate
