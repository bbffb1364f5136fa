import Mathlib.Data.String.Basic
import FormTemplate.Text.Split

/-!
# Span — texts inside a text, by their places in bytes

`Span t a b s` says that `s` stands in `t` from byte `a` up to byte `b`.

* `utf8Length_append` and its companions — sizes in bytes;
* `append_eq_of_utf8Length` — a text is cut at a byte in one way only;
* `Span.isValid_start`, `Span.isValid_stop` — the ends of a span are boundaries of characters;
* `Span.extract_eq`, `Span.unique` — the text between two boundaries is determined by them.
-/

namespace FormTemplate
namespace Text

/-! ## Sizes in bytes -/

theorem utf8Length_eq_utf8Len (t : List Char) : utf8Length t = String.utf8Len t := by
  induction t with
  | nil => rfl
  | cons c t ih =>
      have hcons : utf8Length (c :: t) = c.utf8Size + utf8Length t := rfl
      rw [hcons, ih, String.utf8Len_cons, Nat.add_comm]

@[simp]
theorem utf8Length_nil : utf8Length [] = 0 := rfl

@[simp]
theorem utf8Length_cons (c : Char) (t : List Char) :
    utf8Length (c :: t) = c.utf8Size + utf8Length t := rfl

@[simp]
theorem utf8Length_append (s t : List Char) :
    utf8Length (s ++ t) = utf8Length s + utf8Length t := by
  simp [utf8Length_eq_utf8Len]

@[simp]
theorem utf8Length_eq_zero {t : List Char} : utf8Length t = 0 ↔ t = [] := by
  simp [utf8Length_eq_utf8Len]

theorem utf8Length_pos {t : List Char} (h : t ≠ []) : 0 < utf8Length t :=
  Nat.pos_of_ne_zero fun h0 => h (utf8Length_eq_zero.1 h0)

theorem utf8Length_toList (s : String) : utf8Length s.toList = s.utf8ByteSize := by
  rw [utf8Length_eq_utf8Len, String.utf8Len_toList]

/-! ## Cutting at a byte -/

/-- If one of two beginnings of a text is not longer, the other one continues it. -/
theorem exists_of_append_eq {u u' v v' : List Char} (h : u ++ v = u' ++ v')
    (hle : utf8Length u ≤ utf8Length u') : ∃ w, u' = u ++ w ∧ v = w ++ v' := by
  rcases List.append_eq_append_iff.1 h with ⟨w, hu, hv⟩ | ⟨w, hu, hv⟩
  · exact ⟨w, hu, hv⟩
  · -- `u` is then `u'` and some `w` without bytes
    have hw : w = [] := by
      have hlen := congrArg utf8Length hu
      simp only [utf8Length_append] at hlen
      exact utf8Length_eq_zero.1 (by omega)
    subst hw
    exact ⟨[], by simpa using hu.symm, by simpa using hv.symm⟩

theorem append_eq_of_utf8Length {u u' v v' : List Char} (h : u ++ v = u' ++ v')
    (heq : utf8Length u = utf8Length u') : u = u' ∧ v = v' := by
  rcases exists_of_append_eq h heq.le with ⟨w, hu, hv⟩
  have hw : w = [] := by
    have hlen := congrArg utf8Length hu
    simp only [utf8Length_append] at hlen
    exact utf8Length_eq_zero.1 (by omega)
  subst hw
  exact ⟨by simpa using hu.symm, by simpa using hv⟩

/-! ## Spans -/

/-- `s` stands in `t` from byte `a` up to byte `b`. -/
def Span (t : String) (a b : Nat) (s : String) : Prop :=
  ∃ u v : String, t = u ++ s ++ v ∧ a = u.utf8ByteSize ∧ b = u.utf8ByteSize + s.utf8ByteSize

/-- The same in characters: the texts before and after the span are given as lists. -/
theorem span_iff {t : String} {a b : Nat} {s : String} :
    Span t a b s ↔ ∃ u v : List Char,
      t.toList = u ++ s.toList ++ v ∧ a = utf8Length u ∧ b = utf8Length u + utf8Length s.toList := by
  constructor
  · rintro ⟨u, v, ht, ha, hb⟩
    refine ⟨u.toList, v.toList, ?_, ?_, ?_⟩
    · simp [ht]
    · rw [ha, utf8Length_toList]
    · rw [hb, utf8Length_toList, utf8Length_toList]
  · rintro ⟨u, v, ht, ha, hb⟩
    refine ⟨String.ofList u, String.ofList v, ?_, ?_, ?_⟩
    · rw [← String.toList_inj]
      simp [ht]
    · rw [ha, ← utf8Length_toList, String.toList_ofList]
    · rw [hb, ← utf8Length_toList, ← utf8Length_toList, String.toList_ofList]

/-- What starts after `u` is read off the front of what follows `u`. -/
theorem span_ofList_iff {u v : List Char} {b : Nat} {s : String} :
    Span (String.ofList (u ++ v)) (utf8Length u) b s ↔
      ∃ v', v = s.toList ++ v' ∧ b = utf8Length (u ++ s.toList) := by
  rw [span_iff, String.toList_ofList, utf8Length_append]
  constructor
  · rintro ⟨u', v', htext, hu, rfl⟩
    rw [List.append_assoc] at htext
    rcases append_eq_of_utf8Length htext hu with ⟨rfl, hv⟩
    exact ⟨v', hv, rfl⟩
  · rintro ⟨v', rfl, hb⟩
    exact ⟨u, v', by simp, rfl, hb⟩

theorem span_of_eq {t u s v : List Char} {a b : Nat} (ht : t = u ++ (s ++ v))
    (ha : a = utf8Length u) (hb : b = a + utf8Length s) :
    Span (String.ofList t) a b (String.ofList s) := by
  subst ht ha hb
  exact span_ofList_iff.2 ⟨v, by simp⟩

/-- No span starts inside a character. -/
theorem start_of_span_cons {u v : List Char} {c : Char} {a b : Nat} {s : String}
    (h : Span (String.ofList (u ++ c :: v)) a b s) :
    a ≤ utf8Length u ∨ utf8Length u + c.utf8Size ≤ a := by
  rcases span_iff.1 h with ⟨u', v', htext, rfl, -⟩
  rw [String.toList_ofList, List.append_assoc] at htext
  rcases List.append_eq_append_iff.1 htext with ⟨w, rfl, hw⟩ | ⟨w, rfl, -⟩
  · cases w with
    | nil => exact .inl (by simp)
    | cons e w =>
        have hec : c = e := (List.cons.inj hw).1
        exact .inr (by simp [hec])
  · exact .inl (by simp)

namespace Span

variable {t s s' : String} {a b : Nat}

theorem stop_eq (h : Span t a b s) : b = a + s.utf8ByteSize := by
  rcases h with ⟨u, v, -, rfl, rfl⟩
  rfl

theorem le (h : Span t a b s) : a ≤ b := by
  rw [h.stop_eq]
  exact Nat.le_add_right _ _

theorem stop_le (h : Span t a b s) : b ≤ t.utf8ByteSize := by
  rcases h with ⟨u, v, rfl, -, rfl⟩
  simp only [String.utf8ByteSize_append]
  exact Nat.le_add_right _ _

theorem isValid_start (h : Span t a b s) : String.Pos.Raw.IsValid t ⟨a⟩ := by
  rcases h with ⟨u, v, ht, rfl, -⟩
  exact String.Pos.Raw.isValid_iff_exists_append.2 ⟨u, s ++ v, by rw [ht, String.append_assoc], rfl⟩

theorem isValid_stop (h : Span t a b s) : String.Pos.Raw.IsValid t ⟨b⟩ := by
  rcases h with ⟨u, v, ht, -, rfl⟩
  refine String.Pos.Raw.isValid_iff_exists_append.2 ⟨u ++ s, v, ht, ?_⟩
  exact String.Pos.Raw.ext (by simp [String.rawEndPos, String.utf8ByteSize_append])

/-- A span is what cutting the text at its two ends gives. -/
theorem extract_eq (h : Span t a b s) : String.Pos.Raw.extract t ⟨a⟩ ⟨b⟩ = s := by
  rcases span_iff.1 h with ⟨u, v, ht, rfl, rfl⟩
  have ht' : t = String.ofList (u ++ s.toList ++ v) := by
    rw [← ht, String.ofList_toList]
  rw [ht', utf8Length_eq_utf8Len, utf8Length_eq_utf8Len, String.extract_of_valid,
    String.ofList_toList]

theorem unique (h : Span t a b s) (h' : Span t a b s') : s = s' := by
  rw [← h.extract_eq, h'.extract_eq]

end Span

end Text
end FormTemplate
