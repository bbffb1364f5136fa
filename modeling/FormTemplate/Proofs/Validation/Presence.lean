import FormTemplate.Proofs.Decimal.Layout
import FormTemplate.Proofs.Validation.Checks
import FormTemplate.Proofs.Validation.Reports

/-!
# Presence — what is inserted for a required field

A value is missed by the check if it is vacant: null, a blank text or an empty array.  An array with
one item is not vacant, and its text is that of the item, so that a blank text can be inserted for a
required field after all.

* `Value.Hollow` — a vacant value, or an array with such a value as its only item;
* `Value.allBlank_text_iff` — these are the values that are inserted as blank texts;
* `required_inserted_iff` — what is accepted for a required field is inserted as a blank text only if
  it is an array with a hollow value as its only item.
-/

namespace FormTemplate

open Text (allBlank)

/-! ## The text of a number -/

/-- However a row of digits is laid out, it has an exponent or a point. -/
theorem Binary64.allBlank_layout (sign ds : List Char) (last : Int) :
    allBlank (sign ++ layout ds last) = false := by
  have hmark : 'e' ∈ layout ds last ∨ '.' ∈ layout ds last := by
    unfold layout
    simp only
    split
    · exact .inl (by simp)
    · split
      · exact .inr (by simp)
      · split <;> exact .inr (by simp)
  rcases hmark with he | hpoint
  · exact Text.allBlank_eq_false_of_mem (List.mem_append_right sign he) rfl
  · exact Text.allBlank_eq_false_of_mem (List.mem_append_right sign hpoint) rfl

theorem Binary64.allBlank_text (x : Binary64) : allBlank x.text.toList = false := by
  rcases Nat.eq_zero_or_pos x.mantissa with hzero | hpos
  · rw [text_of_zero hzero, String.toList_ofList]
    exact Text.allBlank_eq_false_of_mem (c := '.') (by simp) rfl
  · rcases hshortest : x.shortest with ⟨n, last⟩
    rw [text_eq hpos hshortest, String.toList_ofList]
    exact allBlank_layout _ _ _

theorem Number.allBlank_text (n : Number) : allBlank (Json.number n) = false := by
  cases n with
  | integer n =>
      have hdigit := List.getLast_mem (Text.digits_ne_nil n.natAbs)
      rw [Json.number, Binary64.showInt_eq]
      exact Text.allBlank_eq_false_of_mem (List.mem_append_right _ hdigit)
        (Text.isBlank_of_isDigit (Text.isDigit_of_mem_digits hdigit))
  | real x => exact x.allBlank_text

/-! ## Blank texts -/

namespace Value

/-- A vacant value, or one inside of arrays with a single item each. -/
inductive Hollow : Value → Prop where
  | vacant {v : Value} : v.isVacant = true → Hollow v
  | only {v : Value} : Hollow v → Hollow (.array [v])

@[simp]
theorem text_array_singleton (v : Value) : text (.array [v]) = v.text := by
  rw [text, itemsText, moreItemsText, List.append_nil]

theorem Hollow.allBlank_text {v : Value} (h : v.Hollow) : allBlank v.text = true := by
  induction h with
  | vacant hvacant =>
      rcases isVacant_iff.1 hvacant with rfl | ⟨s, rfl, hblank⟩ | rfl
      · rw [text]
        rfl
      · rw [text]
        exact hblank
      · rw [text, itemsText]
        rfl
  | only _ ih => rwa [text_array_singleton]

/-- Several items have a comma between them, and an object has braces around it. -/
theorem hollow_of_allBlank : ∀ {v : Value}, allBlank v.text = true → v.Hollow
  | .null, _ => .vacant rfl
  | .string s, h => by
      rw [text] at h
      exact .vacant h
  | .array [], _ => .vacant rfl
  | .array [v], h => by
      rw [text_array_singleton] at h
      exact .only (hollow_of_allBlank h)
  | .array (v :: w :: vs), h => by
      have hcomma : ',' ∈ text (.array (v :: w :: vs)) := by
        rw [text, itemsText, moreItemsText]
        simp
      rw [Text.allBlank_eq_false_of_mem hcomma rfl] at h
      cases h
  | .number n, h => by
      rw [text, n.allBlank_text] at h
      cases h
  | .bool b, h => by
      rw [text] at h
      cases b <;> cases h
  | .object fields, h => by
      rw [text, Json.value] at h
      cases h

/-- The values that are inserted as blank texts. -/
theorem allBlank_text_iff {v : Value} : allBlank v.text = true ↔ v.Hollow :=
  ⟨hollow_of_allBlank, Hollow.allBlank_text⟩

end Value

/-! ## Required fields -/

/-- What is accepted for a required field is inserted as a blank text exactly if it is an array with
one item, and that item is null, a blank text, an empty array or again such an array. -/
theorem required_inserted_iff {x : Variable} {v : Value} (hrequired : x.required = true)
    (hcheck : x.check v = none) :
    allBlank v.text = true ↔ ∃ w, v = .array [w] ∧ w.Hollow := by
  have hpresent : v.isVacant = false := by
    refine Bool.eq_false_iff.2 ?_
    intro hvacant
    have hmissed := Variable.check_eq_required_iff.2 ⟨hvacant, hrequired, rfl⟩
    rw [hcheck] at hmissed
    cases hmissed
  rw [Value.allBlank_text_iff]
  constructor
  · intro h
    cases h with
    | vacant hvacant => exact absurd hvacant (by simp [hpresent])
    | only h => exact ⟨_, rfl, h⟩
  · rintro ⟨w, rfl, h⟩
    exact .only h

/-- Of the items of an array inside an array, a comma is left even if all of them are null. -/
theorem required_inserted_comma :
    let x : Variable := { Variable.new "tags" "Tags" .text with required := true }
    let v : Value := .array [.array [.null, .null]]
    (x.required = true ∧ x.check v = none) ∧ ¬ allBlank v.text = true := by
  intro x v
  have hrequired : x.required = true := rfl
  have hcheck : x.check v = none := rfl
  refine ⟨⟨hrequired, hcheck⟩, ?_⟩
  rw [required_inserted_iff hrequired hcheck]
  rintro ⟨w, hw, hollow⟩
  obtain rfl : .array [.null, .null] = w := by
    simpa [v] using hw
  cases hollow with
  | vacant hvacant => cases hvacant

/-- A null inside of an array is accepted for a required field, and nothing is inserted for it. -/
theorem not_required_inserted :
    ¬ ∀ (x : Variable) (v : Value), x.required = true → x.check v = none →
      allBlank v.text = false := by
  intro h
  let x : Variable := { Variable.new "n" "N" .text with required := true }
  have hpresent := h x (.array [.null]) rfl rfl
  rw [Value.text_array_singleton, Value.text] at hpresent
  cases hpresent

end FormTemplate
