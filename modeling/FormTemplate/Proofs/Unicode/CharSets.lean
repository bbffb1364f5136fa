import FormTemplate.Unicode.Property

/-!
# CharSets — the members of sets of characters

Sets are kept as ranges of code points in ascending order, with a gap before each range but the first.
The set operations rely on that order: a complement is read off the gaps in one pass, and would be
wrong if ranges overlapped or were empty.

* `Covers` — some range has a code point;
* `Normal` — ranges in order and apart from each other, none of them empty;
* `covers_go`, `normal_go` — joining neighbours of a sorted list keeps what it covers and makes it
  normal;
* `covers_gaps`, `normal_gaps` — the gaps between normal ranges are normal and cover the rest;
* `CharSet.covers_ofRanges`, `CharSet.covers_union`, `CharSet.covers_diff` — so the operations are
  those on sets;
* `Forward`, `Property.covers_set` — the characters of a property are those of its categories and
  added rows, less those of its removed rows.
-/

namespace FormTemplate
namespace Unicode

open CharSet (merge gaps)

/-! ## Ranges -/

/-- A range of the list has the code point. -/
def Covers (rs : List CharRange) (n : Nat) : Prop :=
  ∃ r ∈ rs, r.lo ≤ n ∧ n ≤ r.hi

section

variable {n : Nat} {r : CharRange} {rs : List CharRange}

@[simp]
theorem covers_nil : ¬ Covers [] n := by
  simp [Covers]

@[simp]
theorem covers_cons : Covers (r :: rs) n ↔ (r.lo ≤ n ∧ n ≤ r.hi) ∨ Covers rs n := by
  simp [Covers]

@[simp]
theorem covers_append {ss : List CharRange} : Covers (rs ++ ss) n ↔ Covers rs n ∨ Covers ss n := by
  simp [Covers, or_and_right, exists_or]

theorem CharSet.mem_iff {s : CharSet} {c : Char} : s.mem c = true ↔ Covers s.ranges c.toNat := by
  simp [mem, Covers, CharRange.mem]

end

/-- Every range has a code point, and before each but the first there is one that none has. -/
structure Normal (rs : List CharRange) : Prop where
  nonempty : ∀ r ∈ rs, r.lo ≤ r.hi
  apart : rs.Pairwise fun r s => r.hi + 1 < s.lo

namespace Normal

variable {n : Nat} {r : CharRange} {rs : List CharRange}

theorem nil : Normal [] :=
  ⟨by simp, List.Pairwise.nil⟩

theorem cons (hr : r.lo ≤ r.hi) (hgap : ∀ s ∈ rs, r.hi + 1 < s.lo) (h : Normal rs) :
    Normal (r :: rs) :=
  ⟨List.forall_mem_cons.2 ⟨hr, h.nonempty⟩, List.pairwise_cons.2 ⟨hgap, h.apart⟩⟩

theorem tail (h : Normal (r :: rs)) : Normal rs :=
  ⟨(List.forall_mem_cons.1 h.nonempty).2, (List.pairwise_cons.1 h.apart).2⟩

theorem gap (h : Normal (r :: rs)) : ∀ s ∈ rs, r.hi + 1 < s.lo :=
  (List.pairwise_cons.1 h.apart).1

/-- What later ranges cover lies behind the gap. -/
theorem lt_of_covers (h : Normal (r :: rs)) (hn : Covers rs n) : r.hi + 1 < n := by
  obtain ⟨s, hs, hlo, -⟩ := hn
  exact Nat.lt_of_lt_of_le (h.gap s hs) hlo

end Normal

/-! ## Joining neighbours -/

/-- The ranges are in the order of their first code points. -/
def Ascending (rs : List CharRange) : Prop :=
  rs.Pairwise fun r s => r.lo ≤ s.lo

namespace Ascending

variable {r s : CharRange} {rs : List CharRange}

theorem head_le (h : Ascending (r :: s :: rs)) : r.lo ≤ s.lo :=
  (List.pairwise_cons.1 h).1 s List.mem_cons_self

theorem tail (h : Ascending (r :: rs)) : Ascending rs :=
  (List.pairwise_cons.1 h).2

/-- The second range becomes part of the first. -/
theorem joined (h : Ascending (r :: s :: rs)) (hi : Nat) : Ascending (⟨r.lo, hi⟩ :: rs) :=
  List.pairwise_cons.2
    ⟨fun u hu => (List.pairwise_cons.1 h).1 u (List.mem_cons_of_mem s hu), h.tail.tail⟩

end Ascending

section

variable {n : Nat} {r : CharRange} {rs : List CharRange}

theorem le_lo_of_mem_go (h : Ascending (r :: rs)) : ∀ u ∈ merge.go r rs, r.lo ≤ u.lo := by
  induction rs generalizing r with
  | nil => simp [merge.go]
  | cons s rs ih =>
      rw [merge.go]
      split
      case isTrue => exact ih (h.joined _)
      case isFalse =>
        refine List.forall_mem_cons.2 ⟨Nat.le_refl _, ?_⟩
        intro u hu
        exact Nat.le_trans h.head_le (ih h.tail u hu)

theorem covers_go (h : Ascending (r :: rs)) : Covers (merge.go r rs) n ↔ Covers (r :: rs) n := by
  induction rs generalizing r with
  | nil => rw [merge.go]
  | cons s rs ih =>
      have hle := h.head_le
      rw [merge.go]
      split
      case isTrue htouch =>
        -- there is no gap between the two ranges, so their join has nothing that neither has
        have hjoin : (r.lo ≤ n ∧ n ≤ max r.hi s.hi) ↔
            (r.lo ≤ n ∧ n ≤ r.hi) ∨ (s.lo ≤ n ∧ n ≤ s.hi) := by
          omega
        rw [ih (h.joined _), covers_cons, covers_cons, covers_cons, hjoin, or_assoc]
      case isFalse => simp only [covers_cons, ih h.tail]

theorem normal_go (h : Ascending (r :: rs)) (hnonempty : ∀ u ∈ r :: rs, u.lo ≤ u.hi) :
    Normal (merge.go r rs) := by
  induction rs generalizing r with
  | nil => exact .cons (hnonempty r List.mem_cons_self) (by simp) .nil
  | cons s rs ih =>
      obtain ⟨hr, hrest⟩ := List.forall_mem_cons.1 hnonempty
      rw [merge.go]
      split
      case isTrue =>
        refine ih (h.joined _) (List.forall_mem_cons.2 ⟨?_, (List.forall_mem_cons.1 hrest).2⟩)
        exact Nat.le_trans hr (Nat.le_max_left _ _)
      case isFalse hgap =>
        -- the gap in front of the next range is one in front of all that follow
        refine .cons hr ?_ (ih h.tail hrest)
        intro u hu
        have hu := le_lo_of_mem_go h.tail u hu
        omega

/-! ## Gaps -/

theorem le_lo_of_mem_gaps {start : Nat} (h : Normal rs) (hstart : ∀ r ∈ rs, start ≤ r.lo) :
    ∀ u ∈ gaps start rs, start ≤ u.lo := by
  induction rs generalizing start with
  | nil =>
      rw [gaps]
      split <;> simp
  | cons r rs ih =>
      have hr := h.nonempty r List.mem_cons_self
      have hle := hstart r List.mem_cons_self
      have hrest : ∀ u ∈ gaps (r.hi + 1) rs, start ≤ u.lo := by
        intro u hu
        have hu := ih h.tail (fun s hs => Nat.le_of_lt (h.gap s hs)) u hu
        omega
      rw [gaps]
      split
      case isTrue => exact List.forall_mem_cons.2 ⟨Nat.le_refl _, hrest⟩
      case isFalse => exact hrest

theorem covers_gaps {start : Nat} (h : Normal rs) (hstart : ∀ r ∈ rs, start ≤ r.lo)
    (hn : n ≤ lastCodePoint) : Covers (gaps start rs) n ↔ start ≤ n ∧ ¬ Covers rs n := by
  induction rs generalizing start with
  | nil =>
      rw [gaps]
      split <;> simp <;> omega
  | cons r rs ih =>
      have hr := h.nonempty r List.mem_cons_self
      have hle := hstart r List.mem_cons_self
      -- up to the end of `r` nothing is covered by later ranges, behind it they alone decide
      have hgap : Covers rs n → r.hi + 1 < n := h.lt_of_covers
      have hrest := ih h.tail fun s hs => Nat.le_of_lt (h.gap s hs)
      rw [gaps]
      split
      case isTrue =>
        rw [covers_cons, covers_cons, hrest]
        grind
      case isFalse =>
        rw [covers_cons, hrest]
        grind

theorem normal_gaps {start : Nat} (h : Normal rs) (hstart : ∀ r ∈ rs, start ≤ r.lo) :
    Normal (gaps start rs) := by
  induction rs generalizing start with
  | nil =>
      rw [gaps]
      split
      case isTrue hle => exact .cons hle (by simp) .nil
      case isFalse => exact .nil
  | cons r rs ih =>
      have hr := h.nonempty r List.mem_cons_self
      have hlater : ∀ s ∈ rs, r.hi + 1 ≤ s.lo := fun s hs => Nat.le_of_lt (h.gap s hs)
      have hrest := ih h.tail hlater
      rw [gaps]
      split
      case isTrue hlt =>
        refine .cons (Nat.le_sub_one_of_lt hlt) ?_ hrest
        intro u hu
        have hu := le_lo_of_mem_gaps h.tail hlater u hu
        show r.lo - 1 + 1 < u.lo
        omega
      case isFalse => exact hrest

end

/-! ## Operations -/

namespace CharSet

variable {n : Nat} {rs : List CharRange} {a b : CharSet}

theorem ascending_sorted (rs : List CharRange) :
    Ascending (rs.mergeSort fun a b => decide (a.lo ≤ b.lo)) := by
  have hsorted : (rs.mergeSort fun a b => decide (a.lo ≤ b.lo)).Pairwise
      fun a b => decide (a.lo ≤ b.lo) = true := by
    apply List.pairwise_mergeSort
    · simp only [decide_eq_true_eq]
      omega
    · simp only [Bool.or_eq_true, decide_eq_true_eq]
      omega
  exact hsorted.imp of_decide_eq_true

theorem covers_ofRanges : Covers (ofRanges rs).ranges n ↔ Covers rs n := by
  have hperm : ∀ ss : List CharRange, ss.Perm rs → (Covers ss n ↔ Covers rs n) := by
    intro ss hss
    simp only [Covers, hss.mem_iff]
  have hsorted := ascending_sorted rs
  rw [← hperm _ (List.mergeSort_perm rs fun a b => decide (a.lo ≤ b.lo)), ofRanges]
  cases hrs : rs.mergeSort fun a b => decide (a.lo ≤ b.lo) with
  | nil => rfl
  | cons r ss => exact covers_go (hrs ▸ hsorted)

theorem normal_ofRanges (h : ∀ r ∈ rs, r.lo ≤ r.hi) : Normal (ofRanges rs).ranges := by
  have hsorted := ascending_sorted rs
  have hnonempty : ∀ r ∈ rs.mergeSort fun a b => decide (a.lo ≤ b.lo), r.lo ≤ r.hi := by
    intro r hr
    exact h r (List.mem_mergeSort.1 hr)
  rw [ofRanges]
  cases hrs : rs.mergeSort fun a b => decide (a.lo ≤ b.lo) with
  | nil => exact .nil
  | cons r ss => exact normal_go (hrs ▸ hsorted) (hrs ▸ hnonempty)

theorem covers_union : Covers (a.union b).ranges n ↔ Covers a.ranges n ∨ Covers b.ranges n := by
  rw [union, covers_ofRanges, covers_append]

theorem normal_union (ha : Normal a.ranges) (hb : Normal b.ranges) : Normal (a.union b).ranges := by
  apply normal_ofRanges
  intro r hr
  exact (List.mem_append.1 hr).elim (ha.nonempty r) (hb.nonempty r)

theorem covers_compl (h : Normal a.ranges) (hn : n ≤ lastCodePoint) :
    Covers a.compl.ranges n ↔ ¬ Covers a.ranges n := by
  rw [compl, covers_gaps h (by simp) hn]
  simp

theorem normal_compl (h : Normal a.ranges) : Normal a.compl.ranges :=
  normal_gaps h (by simp)

theorem covers_diff (ha : Normal a.ranges) (hb : Normal b.ranges) (hn : n ≤ lastCodePoint) :
    Covers (a.diff b).ranges n ↔ Covers a.ranges n ∧ ¬ Covers b.ranges n := by
  -- a difference is made of complements, and each of them needs a normal set
  have hnormal := normal_union (normal_compl ha) (normal_compl (normal_compl hb))
  rw [diff, inter, covers_compl hnormal hn, covers_union, covers_compl ha hn,
    covers_compl (normal_compl hb) hn, covers_compl hb hn, not_or, Classical.not_not,
    Classical.not_not]

end CharSet

/-! ## Tables -/

section

variable {row : String} {rows : List String} {cs : List Char}

/-- A test of all ranges, row by row. -/
theorem all_readRanges_cons {p : CharRange → Bool} (hrow : row = String.ofList cs)
    (hfirst : (readRanges.go cs none 0).all p = true) (hrest : (readRanges rows).all p = true) :
    (readRanges (row :: rows)).all p = true := by
  have hcons : readRanges (row :: rows) = readRanges.go row.toList none 0 ++ readRanges rows := rfl
  rw [hcons, hrow, String.toList_ofList, List.all_append, hfirst, hrest]
  rfl

theorem mem_readRanges_of_row {r : CharRange} (hmem : row ∈ rows) (hrow : row = String.ofList cs)
    (hr : r ∈ readRanges.go cs none 0) : r ∈ readRanges rows := by
  refine List.mem_flatMap.2 ⟨row, hmem, ?_⟩
  rw [hrow, String.toList_ofList]
  exact hr

end

/-- No range of the rows is written backwards. -/
def Forward (rows : List String) : Prop :=
  ∀ r ∈ readRanges rows, r.lo ≤ r.hi

namespace Category

variable {n : Nat} {k : Category} {ks : List Category}

theorem set_eq (h : k ≠ .unassigned) : set k = CharSet.ofRanges (readRanges (table k)) := by
  cases k with
  | unassigned => exact absurd rfl h
  | _ => rfl

theorem covers_union (h : ∀ k ∈ ks, k ≠ .unassigned) :
    Covers (union ks).ranges n ↔ ∃ k ∈ ks, Covers (readRanges (table k)) n := by
  induction ks with
  | nil => simp [union, CharSet.none]
  | cons k ks ih =>
      obtain ⟨hk, hks⟩ := List.forall_mem_cons.1 h
      have hunion : union (k :: ks) = (set k).union (union ks) := rfl
      rw [hunion, CharSet.covers_union, set_eq hk, CharSet.covers_ofRanges, ih hks]
      simp only [List.mem_cons, or_and_right, exists_or, exists_eq_left]

theorem normal_union (h : ∀ k ∈ ks, k ≠ .unassigned) (hforward : ∀ k ∈ ks, Forward (table k)) :
    Normal (union ks).ranges := by
  induction ks with
  | nil => exact .nil
  | cons k ks ih =>
      obtain ⟨hk, hks⟩ := List.forall_mem_cons.1 h
      obtain ⟨hfirst, hrest⟩ := List.forall_mem_cons.1 hforward
      have hunion : union (k :: ks) = (set k).union (union ks) := rfl
      rw [hunion]
      apply CharSet.normal_union
      · rw [set_eq hk]
        exact CharSet.normal_ofRanges hfirst
      · exact ih hks hrest

end Category

/-- The characters of a property, by the rows of its tables. -/
theorem Property.covers_set {p : Property} {n : Nat}
    (hassigned : ∀ k ∈ p.categories, k ≠ .unassigned)
    (hcategories : ∀ k ∈ p.categories, Forward (Category.table k)) (hadded : Forward p.added)
    (hremoved : Forward p.removed) (hn : n ≤ lastCodePoint) :
    Covers p.set.ranges n ↔
      ((∃ k ∈ p.categories, Covers (readRanges (Category.table k)) n) ∨
        Covers (readRanges p.added) n) ∧ ¬ Covers (readRanges p.removed) n := by
  have hnormal := CharSet.normal_union (Category.normal_union hassigned hcategories)
    (CharSet.normal_ofRanges hadded)
  rw [set, CharSet.covers_diff hnormal (CharSet.normal_ofRanges hremoved) hn,
    CharSet.covers_union, Category.covers_union hassigned, CharSet.covers_ofRanges,
    CharSet.covers_ofRanges]

end Unicode
end FormTemplate
