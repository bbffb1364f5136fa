import FormTemplate.Variable

/-!
# LastRules — of several rules of a kind the last one counts

Each kind of rule sets one thing in a variable, and four of the six kinds share the record of its
constraints, which is made when the first of them is applied.  What a list of rules leaves behind can
be said without the order in which kinds take turns: it is enough to know the last rule of each kind.

* `Rule.min?` and its siblings — what a rule of some kind sets;
* `Rule.lastOf` — what the last rule of a kind sets;
* `Rule.SameLast` — lists that agree on the last rule of each kind;
* `Variable.Updated` — a variable after rules, said field by field;
* `Variable.Updated.single`, `Variable.Updated.trans` — one rule, and rules after rules;
* `Variable.updated_foldl` — and so a list of them;
* `Variable.Updated.unique` — nothing is left open;
* `last_rules_decide` — rules do what their last ones of each kind do.
-/

namespace FormTemplate

namespace Rule

/-! ## Kinds of rules -/

def min? : Rule → Option Int
  | min n => some n
  | _ => none

def max? : Rule → Option Int
  | max n => some n
  | _ => none

def pattern? : Rule → Option String
  | pattern p => some p
  | _ => none

def message? : Rule → Option String
  | message m => some m
  | _ => none

def default? : Rule → Option String
  | default d => some d
  | _ => none

/-- Whether the rule is one of the four kinds that are kept as constraints. -/
def constrains (r : Rule) : Bool :=
  r.min?.isSome || r.max?.isSome || r.pattern?.isSome || r.message?.isSome

/-! ## The last rule of a kind -/

section

variable {α : Type} {read : Rule → Option α} {rules : List Rule}

/-- What the last rule sets of those for which `read` finds something. -/
def lastOf (read : Rule → Option α) (rules : List Rule) : Option α :=
  (rules.filterMap read).getLast?

theorem lastOf_append (rules' : List Rule) :
    lastOf read (rules ++ rules') = (lastOf read rules').or (lastOf read rules) := by
  rw [lastOf, List.filterMap_append, List.getLast?_append, lastOf, lastOf]

theorem isSome_lastOf : (lastOf read rules).isSome = true ↔ ∃ r ∈ rules, (read r).isSome = true := by
  rw [lastOf, List.getLast?_isSome]
  constructor
  · intro hne
    obtain ⟨a, ha⟩ := List.exists_mem_of_ne_nil _ hne
    obtain ⟨r, hr, hread⟩ := List.mem_filterMap.1 ha
    exact ⟨r, hr, by rw [hread]; rfl⟩
  · rintro ⟨r, hr, hread⟩
    obtain ⟨a, ha⟩ := Option.isSome_iff_exists.1 hread
    exact List.ne_nil_of_mem (List.mem_filterMap.2 ⟨r, hr, ha⟩)

end

/-- Both lists have the same last rule of each kind, or neither has one. -/
structure SameLast (rules rules' : List Rule) : Prop where
  required : required ∈ rules ↔ required ∈ rules'
  min : lastOf min? rules = lastOf min? rules'
  max : lastOf max? rules = lastOf max? rules'
  pattern : lastOf pattern? rules = lastOf pattern? rules'
  message : lastOf message? rules = lastOf message? rules'
  default : lastOf default? rules = lastOf default? rules'

theorem exists_constrains_iff {rules : List Rule} :
    (∃ r ∈ rules, r.constrains = true) ↔
      (lastOf min? rules).isSome = true ∨ (lastOf max? rules).isSome = true ∨
        (lastOf pattern? rules).isSome = true ∨ (lastOf message? rules).isSome = true := by
  simp only [isSome_lastOf, constrains, Bool.or_eq_true, or_assoc, and_or_left, exists_or]

theorem SameLast.exists_constrains {rules rules' : List Rule} (h : SameLast rules rules') :
    (∃ r ∈ rules, r.constrains = true) ↔ ∃ r ∈ rules', r.constrains = true := by
  rw [exists_constrains_iff, exists_constrains_iff, h.min, h.max, h.pattern, h.message]

end Rule

namespace Variable

open Rule (lastOf SameLast)

/-! ## A variable after rules -/

/-- What values are checked with; no constraint is the same as none in the record. -/
def constraints (v : Variable) : Constraints :=
  v.validation.getD {}

/-- The variable `w` is `v` after some rules: what the last rule of a kind sets has taken the place of
what was there, the default as a value of the variable's type; the record of constraints is there if
it was or a rule belongs into it; and nothing else has moved. -/
structure Updated (v : Variable) (rules : List Rule) (w : Variable) : Prop where
  min : w.constraints.min = (lastOf Rule.min? rules).or v.constraints.min
  max : w.constraints.max = (lastOf Rule.max? rules).or v.constraints.max
  pattern : w.constraints.pattern = (lastOf Rule.pattern? rules).or v.constraints.pattern
  message : w.constraints.message = (lastOf Rule.message? rules).or v.constraints.message
  default : w.default = ((lastOf Rule.default? rules).map (typedDefault v.type)).or v.default
  required : w.required = true ↔ v.required = true ∨ Rule.required ∈ rules
  validation : w.validation.isSome = true ↔
    v.validation.isSome = true ∨ ∃ r ∈ rules, r.constrains = true
  name : w.name = v.name
  label : w.label = v.label
  type : w.type = v.type
  options : w.options = v.options
  hint : w.hint = v.hint

namespace Updated

variable {v w : Variable} {rules : List Rule}

theorem nil (v : Variable) : v.Updated [] v := by
  constructor <;> simp [lastOf]

/-- A single rule sets what belongs to its kind. -/
theorem single (v : Variable) (r : Rule) : v.Updated [r] (v.applyRule r) := by
  have hlast : ∀ {α : Type} (read : Rule → Option α), lastOf read [r] = read r := by
    intro α read
    cases hr : read r <;> simp [lastOf, hr]
  -- a record that is not there yet counts as one that constrains nothing
  cases r <;>
    constructor <;>
      simp [hlast, applyRule, constrain, constraints, Rule.min?, Rule.max?, Rule.pattern?,
        Rule.message?, Rule.default?, Rule.constrains]

/-- Rules after rules.  A default is of the same type in both parts, since no rule changes that. -/
theorem trans {rules' : List Rule} {w' : Variable} (h : v.Updated rules w)
    (h' : w.Updated rules' w') : v.Updated (rules ++ rules') w' where
  min := by rw [h'.min, h.min, Rule.lastOf_append, Option.or_assoc]
  max := by rw [h'.max, h.max, Rule.lastOf_append, Option.or_assoc]
  pattern := by rw [h'.pattern, h.pattern, Rule.lastOf_append, Option.or_assoc]
  message := by rw [h'.message, h.message, Rule.lastOf_append, Option.or_assoc]
  default := by
    rw [h'.default, h.default, h.type, Rule.lastOf_append, Option.map_or, Option.or_assoc]
  required := by rw [h'.required, h.required, List.mem_append, or_assoc]
  validation := by
    rw [h'.validation, h.validation]
    simp only [List.mem_append, or_and_right, exists_or, or_assoc]
  name := h'.name.trans h.name
  label := h'.label.trans h.label
  type := h'.type.trans h.type
  options := h'.options.trans h.options
  hint := h'.hint.trans h.hint

theorem congr {rules' : List Rule} (h : v.Updated rules w) (hsame : SameLast rules' rules) :
    v.Updated rules' w where
  min := hsame.min ▸ h.min
  max := hsame.max ▸ h.max
  pattern := hsame.pattern ▸ h.pattern
  message := hsame.message ▸ h.message
  default := hsame.default ▸ h.default
  required := by rw [h.required, hsame.required]
  validation := by rw [h.validation, hsame.exists_constrains]
  name := h.name
  label := h.label
  type := h.type
  options := h.options
  hint := h.hint

/-- Every field is settled, the record of constraints with them. -/
theorem unique {w' : Variable} (h : v.Updated rules w) (h' : v.Updated rules w') : w = w' := by
  have hconstraints : w.constraints = w'.constraints := by
    have hmin := h.min.trans h'.min.symm
    have hmax := h.max.trans h'.max.symm
    have hpattern := h.pattern.trans h'.pattern.symm
    have hmessage := h.message.trans h'.message.symm
    cases hc : w.constraints
    cases hc' : w'.constraints
    simp_all
  have hpresent : w.validation.isSome = w'.validation.isSome :=
    Bool.eq_iff_iff.2 (h.validation.trans h'.validation.symm)
  -- the records are there together, and then they are the same
  have hvalidation : w.validation = w'.validation := by
    unfold constraints at hconstraints
    cases hw : w.validation <;> cases hw' : w'.validation <;> simp_all
  have hrequired : w.required = w'.required :=
    Bool.eq_iff_iff.2 (h.required.trans h'.required.symm)
  have hdefault := h.default.trans h'.default.symm
  have hname := h.name.trans h'.name.symm
  have hlabel := h.label.trans h'.label.symm
  have htype := h.type.trans h'.type.symm
  have hoptions := h.options.trans h'.options.symm
  have hhint := h.hint.trans h'.hint.symm
  cases w
  cases w'
  simp_all

end Updated

/-- All rules of a list, in their order. -/
theorem updated_foldl (v : Variable) (rules : List Rule) :
    v.Updated rules (rules.foldl applyRule v) := by
  induction rules generalizing v with
  | nil => exact .nil v
  | cons r rules ih => exact (Updated.single v r).trans (ih (v.applyRule r))

theorem foldl_applyRule_congr (v : Variable) {rules rules' : List Rule}
    (h : SameLast rules rules') : rules.foldl applyRule v = rules'.foldl applyRule v :=
  (v.updated_foldl rules).unique ((v.updated_foldl rules').congr h)

end Variable

/-- Rules in a list, be they given or read from a text, leave in a variable what the last of each kind
sets, the default as a value of the variable's type, and what was there where there is no rule of a
kind.  They make a field required or leave it as it was; they make the record of constraints if there
is none and one of them belongs into it; and name, label, type, choices and hint stay.  So lists with
the same last rule of each kind have the same effect, however their kinds take turns. -/
theorem last_rules_decide (v : Variable) :
    (∀ rules : List Rule, v.Updated rules (rules.foldl Variable.applyRule v)) ∧
      (∀ t : List Char, v.Updated (Rule.parseList t) (v.applyRules t)) ∧
      (∀ rules rules' : List Rule, Rule.SameLast rules rules' →
        rules.foldl Variable.applyRule v = rules'.foldl Variable.applyRule v) ∧
      ∀ t t' : List Char, Rule.SameLast (Rule.parseList t) (Rule.parseList t') →
        v.applyRules t = v.applyRules t' :=
  ⟨v.updated_foldl, fun t => v.updated_foldl (Rule.parseList t),
    fun _ _ => v.foldl_applyRule_congr, fun _ _ => v.foldl_applyRule_congr⟩

/-- A bound that is set twice, and the same rules with their kinds in another order. -/
theorem last_rules_decide_interleaved :
    let v := Variable.new "n" "N" .number
    let t := "min=1,default=x,required,max=9,min=2,default=7".toList
    let t' := "default=7,max=9,min=2,required".toList
    v.applyRules t = v.applyRules t' ∧ (v.applyRules t).constraints.min = some 2 ∧
      (v.applyRules t).type = .number := by
  intro v t t'
  obtain ⟨-, hupdated, -, hsame⟩ := last_rules_decide v
  refine ⟨hsame t t' ?_, ?_, (hupdated t).type⟩
  · constructor <;> decide +kernel
  · rw [(hupdated t).min]
    decide +kernel

end FormTemplate
