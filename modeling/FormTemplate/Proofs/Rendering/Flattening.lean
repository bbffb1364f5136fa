import Mathlib.Logic.Relation
import FormTemplate.Proofs.Text.Cutting
import FormTemplate.Rendering

/-!
# Flattening — the text of arrays within arrays

The items of an array are inserted with commas between them, and nothing marks where an array within
it begins or ends.

* `Value.Inlines` — one array among items, at any depth, gives way to its own items;
* `Value.FlattensTo` — inlining until no array with items is left;
* `Value.leaves`, `flattensTo_iff` — what that leads to, by recursion on the value;
* `text_array_eq_join_leaves` — the text of an array is that of its leaves with commas between them;
* `Inlines.text_eq` — inlining leaves the text as it is;
* `InlinesInside.text_object_ne` — but not inside an object, which keeps the brackets of its arrays;
* `text_array_flattens` — all of this together.

An array without items is never inlined: it is inserted as an empty text, and the comma next to it
stays.
-/

namespace FormTemplate
namespace Value

variable {items xs ys : List Value}

/-! ## Inlining -/

/-- An array among the items gives way to its own items, of which there is one at least. -/
inductive Inlines : List Value → List Value → Prop where
  | here (before : List Value) {items : List Value} (after : List Value) (hne : items ≠ []) :
      Inlines (before ++ .array items :: after) (before ++ (items ++ after))
  | within (before : List Value) {xs ys : List Value} (after : List Value) (h : Inlines xs ys) :
      Inlines (before ++ .array xs :: after) (before ++ .array ys :: after)

/-- The same anywhere in a value, inside of its objects as well. -/
inductive InlinesInside : Value → Value → Prop where
  | items {xs ys : List Value} (h : Inlines xs ys) : InlinesInside (.array xs) (.array ys)
  | item (before : List Value) {v w : Value} (after : List Value) (h : InlinesInside v w) :
      InlinesInside (.array (before ++ v :: after)) (.array (before ++ w :: after))
  | field (before : List (String × Value)) (name : String) {v w : Value}
      (after : List (String × Value)) (h : InlinesInside v w) :
      InlinesInside (.object (before ++ (name, v) :: after))
        (.object (before ++ (name, w) :: after))

/-- A value that is not an array, or an array without items. -/
def IsLeaf (v : Value) : Prop :=
  ∀ items, v = .array items → items = []

/-- The items that inlining leads to when it is done as often as possible. -/
structure FlattensTo (items flat : List Value) : Prop where
  steps : Relation.ReflTransGen Inlines items flat
  leaf : ∀ v ∈ flat, v.IsLeaf

theorem Inlines.ne_nil (h : Inlines xs ys) : xs ≠ [] ∧ ys ≠ [] := by
  cases h with
  | here before after hne => simp [hne]
  | within before after h => simp

/-! ## Leaves -/

mutual

/-- The leaves of the items of an array, or the value itself if it is a leaf. -/
def leaves : Value → List Value
  | .array (v :: vs) => leaves v ++ itemLeaves vs
  | v => [v]

def itemLeaves : List Value → List Value
  | [] => []
  | v :: vs => leaves v ++ itemLeaves vs

end

theorem itemLeaves_eq (vs : List Value) : itemLeaves vs = vs.flatMap leaves := by
  induction vs with
  | nil => rfl
  | cons v vs ih => rw [itemLeaves, ih, List.flatMap_cons]

theorem leaves_array (hne : items ≠ []) : leaves (.array items) = items.flatMap leaves := by
  cases items with
  | nil => exact absurd rfl hne
  | cons v vs => rw [leaves, itemLeaves_eq, List.flatMap_cons]

theorem IsLeaf.leaves_eq {v : Value} (h : v.IsLeaf) : v.leaves = [v] := by
  cases v with
  | array items =>
      rw [h items rfl]
      rfl
  | _ => rfl

/-- To prove something of all values, leaves and arrays with items are enough. -/
@[elab_as_elim]
theorem leaves_induction {motive : Value → Prop} (leaf : ∀ v, v.IsLeaf → motive v)
    (array : ∀ items, items ≠ [] → (∀ v ∈ items, motive v) → motive (.array items)) :
    ∀ v, motive v
  | .array [] => leaf _ fun _ he => by cases he; rfl
  | .array (v :: vs) =>
      array (v :: vs) (List.cons_ne_nil v vs) fun w _ => leaves_induction leaf array w
  | .null => leaf _ fun _ he => by cases he
  | .bool _ => leaf _ fun _ he => by cases he
  | .number _ => leaf _ fun _ he => by cases he
  | .string _ => leaf _ fun _ he => by cases he
  | .object _ => leaf _ fun _ he => by cases he

theorem leaves_ne_nil (v : Value) : v.leaves ≠ [] := by
  induction v using leaves_induction with
  | leaf v h => simp [h.leaves_eq]
  | array items hne ih =>
      cases items with
      | nil => exact absurd rfl hne
      | cons v vs => simp [leaves_array hne, ih v List.mem_cons_self]

theorem isLeaf_of_mem_leaves {v w : Value} (hw : w ∈ v.leaves) : w.IsLeaf := by
  induction v using leaves_induction with
  | leaf v h =>
      obtain rfl : w = v := by
        simpa [h.leaves_eq] using hw
      exact h
  | array items hne ih =>
      rw [leaves_array hne] at hw
      obtain ⟨v, hv, hwv⟩ := List.mem_flatMap.1 hw
      exact ih v hv hwv

theorem flatMap_leaves_of_isLeaf (h : ∀ v ∈ xs, v.IsLeaf) : xs.flatMap leaves = xs := by
  calc
    xs.flatMap leaves = xs.flatMap fun v => [v] :=
      List.flatMap_congr fun v hv => (h v hv).leaves_eq
    _ = xs := List.flatMap_singleton' xs

/-! ## Inlining leads to the leaves -/

/-- One step does not change the leaves. -/
theorem Inlines.flatMap_leaves (h : Inlines xs ys) : xs.flatMap leaves = ys.flatMap leaves := by
  induction h with
  | here before after hne =>
      -- without items it would be a leaf, and a leaf does not give way
      simp [leaves_array hne]
  | within before after h ih => simp [leaves_array h.ne_nil.1, leaves_array h.ne_nil.2, ih]

theorem flatMap_leaves_of_steps (h : Relation.ReflTransGen Inlines xs ys) :
    xs.flatMap leaves = ys.flatMap leaves := by
  induction h with
  | refl => rfl
  | tail _ hstep ih => exact ih.trans hstep.flatMap_leaves

/-- Items between others that can be replaced by their leaves one by one can be all together. -/
theorem steps_of_each
    (h : ∀ v ∈ xs, ∀ before after,
      Relation.ReflTransGen Inlines (before ++ v :: after) (before ++ (v.leaves ++ after)))
    (before after : List Value) :
    Relation.ReflTransGen Inlines (before ++ (xs ++ after))
      (before ++ (xs.flatMap leaves ++ after)) := by
  induction xs generalizing before with
  | nil => exact .refl
  | cons v xs ih =>
      -- the other items stand behind the first one, and then behind its leaves
      have hfirst := h v List.mem_cons_self before (xs ++ after)
      have hrest := ih (fun w hw => h w (List.mem_cons_of_mem v hw)) (before ++ v.leaves)
      refine hfirst.trans ?_
      simpa using hrest

theorem steps_leaves (v : Value) : ∀ before after,
    Relation.ReflTransGen Inlines (before ++ v :: after) (before ++ (v.leaves ++ after)) := by
  induction v using leaves_induction with
  | leaf v h =>
      intro before after
      rw [h.leaves_eq]
      exact .refl
  | array items hne ih =>
      -- the array gives way first, and then its items one after the other
      intro before after
      rw [leaves_array hne]
      exact .head (.here before after hne) (steps_of_each ih before after)

theorem flattensTo_iff {flat : List Value} :
    FlattensTo items flat ↔ flat = items.flatMap leaves := by
  constructor
  · -- the leaves are the same all along, and at the end there is nothing else
    rintro ⟨hsteps, hleaf⟩
    rw [flatMap_leaves_of_steps hsteps, flatMap_leaves_of_isLeaf hleaf]
  · rintro rfl
    refine ⟨?_, ?_⟩
    · have hsteps := steps_of_each (fun v (_ : v ∈ items) => steps_leaves v) [] []
      simpa using hsteps
    · intro v hv
      obtain ⟨w, -, hvw⟩ := List.mem_flatMap.1 hv
      exact isLeaf_of_mem_leaves hvw

/-! ## Texts with commas between them -/

theorem moreItemsText_eq (vs : List Value) :
    moreItemsText vs = (vs.map text).flatMap fun t => [','] ++ t := by
  induction vs with
  | nil => rw [moreItemsText]; rfl
  | cons v vs ih => rw [moreItemsText, ih]; rfl

theorem text_array (items : List Value) :
    text (.array items) = Text.join [','] (items.map text) := by
  cases items with
  | nil => rw [text, itemsText]; rfl
  | cons v vs => rw [text, itemsText, moreItemsText_eq, List.map_cons, Text.join_cons]

theorem text_array_append (hxs : xs ≠ []) (hys : ys ≠ []) :
    text (.array (xs ++ ys)) = text (.array xs) ++ ',' :: text (.array ys) := by
  rw [text_array, List.map_append, Text.join_append [','] (by simpa) (by simpa), ← text_array,
    ← text_array, List.append_assoc, List.singleton_append]

/-- Where each item is its leaves with commas between them, so is the array. -/
theorem text_array_of_each (h : ∀ v ∈ items, text v = Text.join [','] (v.leaves.map text)) :
    text (.array items) = Text.join [','] ((items.flatMap leaves).map text) := by
  calc
    text (.array items) = Text.join [','] (items.map text) := text_array items
    _ = Text.join [','] (items.map fun v => Text.join [','] (v.leaves.map text)) := by
          rw [List.map_congr_left h]
    _ = Text.join [','] (items.flatMap fun v => v.leaves.map text) :=
          Text.join_flatMap [','] fun v _ => by simpa using v.leaves_ne_nil
    _ = Text.join [','] ((items.flatMap leaves).map text) := by
          rw [List.map_flatMap]

theorem text_eq_join_leaves (v : Value) : text v = Text.join [','] (v.leaves.map text) := by
  induction v using leaves_induction with
  | leaf v h => rw [h.leaves_eq]; rfl
  | array items hne ih => rw [leaves_array hne, text_array_of_each ih]

theorem text_array_eq_join_leaves (items : List Value) :
    text (.array items) = Text.join [','] ((items.flatMap leaves).map text) :=
  text_array_of_each fun v _ => text_eq_join_leaves v

/-- Two commas, since null and the empty array are leaves. -/
example : text (.array [.null, .array [.array [], .bool true]]) = [',', ',', 't', 'r', 'u', 'e'] :=
  rfl

theorem Inlines.text_eq (h : Inlines xs ys) : text (.array xs) = text (.array ys) := by
  rw [text_array_eq_join_leaves, h.flatMap_leaves, ← text_array_eq_join_leaves]

/-! ## Inside of objects -/

theorem moreElements_append (vs ws : List Value) :
    Json.moreElements (vs ++ ws) = Json.moreElements vs ++ Json.moreElements ws := by
  induction vs with
  | nil => rfl
  | cons v vs ih => simp [Json.moreElements, ih]

theorem moreMembers_append (fs gs : List (String × Value)) :
    Json.moreMembers (fs ++ gs) = Json.moreMembers fs ++ Json.moreMembers gs := by
  induction fs with
  | nil => rfl
  | cons f fs ih => simp [Json.moreMembers, ih]

/-- An opening bracket counts for the comma that the first item lacks. -/
theorem length_json_array (hne : items ≠ []) :
    (Json.value (.array items)).length = (Json.moreElements items).length + 1 := by
  have hcomma : Json.moreElements items = ',' :: Json.elements items := by
    cases items with
    | nil => exact absurd rfl hne
    | cons v vs => rfl
  simp [hcomma, Json.value]

theorem length_json_object {fields : List (String × Value)} (hne : fields ≠ []) :
    (Json.value (.object fields)).length = (Json.moreMembers fields).length + 1 := by
  have hcomma : Json.moreMembers fields = ',' :: Json.members fields := by
    cases fields with
    | nil => exact absurd rfl hne
    | cons f fields => rfl
  simp [hcomma, Json.value]

/-- As JSON, an array that gives way takes its two brackets with it; the commas stay. -/
theorem Inlines.length_json (h : Inlines xs ys) :
    (Json.value (.array xs)).length = (Json.value (.array ys)).length + 2 := by
  rw [length_json_array h.ne_nil.1, length_json_array h.ne_nil.2]
  induction h with
  | here before after hne =>
      have hitems := length_json_array hne
      simp only [moreElements_append, Json.moreElements, List.length_append, List.length_cons]
      omega
  | within before after h ih =>
      have hxs := length_json_array h.ne_nil.1
      have hys := length_json_array h.ne_nil.2
      simp only [moreElements_append, Json.moreElements, List.length_append, List.length_cons]
      omega

namespace InlinesInside

variable {v w : Value}

theorem length_json (h : InlinesInside v w) :
    (Json.value v).length = (Json.value w).length + 2 := by
  induction h with
  | items h => exact h.length_json
  | item before after h ih =>
      have hne (u : Value) : before ++ u :: after ≠ [] := by simp
      rw [length_json_array (hne _), length_json_array (hne _)]
      simp only [moreElements_append, Json.moreElements, List.length_append, List.length_cons]
      omega
  | field before name after h ih =>
      have hne (u : Value) : before ++ (name, u) :: after ≠ [] := by simp
      rw [length_json_object (hne _), length_json_object (hne _)]
      simp only [moreMembers_append, Json.moreMembers, List.length_append, List.length_cons]
      omega

/-- The text of an object is its JSON, in which every bracket is kept. -/
theorem text_object_ne {fields : List (String × Value)} (h : InlinesInside (.object fields) w) :
    text (.object fields) ≠ text w := by
  have hlength := h.length_json
  cases h with
  | field before name after h =>
      intro heq
      simp only [text] at heq
      rw [heq] at hlength
      omega

end InlinesInside

/-! ## The text of an array -/

/-- Arrays are inserted flat.  The leaves of their items are what inlining the arrays with items
among them leads to, in whatever order that is done; an array without items is a leaf with an empty
text.  The text of an array is that of the leaves with commas between them.  So two rows of items
are put together with a comma, and inlining at any depth leaves the text as it is.  An object is one
leaf and inserted as compact JSON, in which no array can be inlined without changing it. -/
theorem text_array_flattens :
    (∀ items flat, FlattensTo items flat ↔ flat = items.flatMap leaves) ∧
    (∀ items, text (.array items) = Text.join [','] ((items.flatMap leaves).map text)) ∧
    (leaves (.array []) = [.array []] ∧ text (.array []) = []) ∧
    (∀ xs ys, xs ≠ [] → ys ≠ [] →
      text (.array (xs ++ ys)) = text (.array xs) ++ ',' :: text (.array ys)) ∧
    (∀ xs ys, Inlines xs ys → text (.array xs) = text (.array ys)) ∧
    (∀ fields, leaves (.object fields) = [.object fields] ∧
      text (.object fields) = Json.value (.object fields)) ∧
    (∀ fields w, InlinesInside (.object fields) w → text (.object fields) ≠ text w) := by
  refine ⟨fun items flat => flattensTo_iff, text_array_eq_join_leaves, ⟨rfl, ?_⟩, ?_, ?_, ?_, ?_⟩
  · rw [text, itemsText]
  · intro xs ys hxs hys
    exact text_array_append hxs hys
  · intro xs ys h
    exact h.text_eq
  · intro fields
    exact ⟨rfl, by rw [text]⟩
  · intro fields w h
    exact h.text_object_ne

/-- An array with an empty array and an object, inside of another array. -/
theorem text_array_flattens_nested :
    let object : Value := .object [("a", .array [.bool true])]
    let inner : List Value := [.array [], object]
    let xs : List Value := [.string "x", .array [.null, .array inner]]
    let ys : List Value := [.string "x", .array [.null, .array [], object]]
    Inlines xs ys ∧
      text (.array (xs ++ inner)) = text (.array ys) ++ ',' :: text (.array inner) ∧
      text (.object [("b", .array xs)]) ≠ text (.object [("b", .array ys)]) := by
  intro object inner xs ys
  have hinlines : Inlines xs ys :=
    .within [.string "x"] [] (.here [.null] [] (List.cons_ne_nil _ _))
  obtain ⟨-, -, -, happend, hinline, -, hobject⟩ := text_array_flattens
  refine ⟨hinlines, ?_, hobject _ _ (.field [] "b" [] (.items hinlines))⟩
  rw [happend xs inner (List.cons_ne_nil _ _) (List.cons_ne_nil _ _), hinline xs ys hinlines]

end Value
end FormTemplate
