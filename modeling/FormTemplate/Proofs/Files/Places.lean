import Mathlib.Data.List.DropRight
import Mathlib.Data.List.Infix
import FormTemplate.Files
import FormTemplate.Proofs.Text.Cutting

/-!
# Places — where paths lead

A path is followed name by name, and every step asks for the folder that it starts from.  Where the
path leads, should it lead anywhere, can be said without asking: empty names and single dots stay,
two dots go back, and every other name goes on.

* `Path.steps` — the names of a path that go somewhere;
* `Path.steps_parent?`, `Path.exists_parent?_of_fileName?`, `Path.steps_join_fileName` — the steps of
  a parent are all but the last one, which is the file name, and a file name joined to a path is one
  more step;
* `Files.place`, `Files.trail` — the place that a path leads to, and the places that it leads over;
* `Files.eq_of_follow` — a path that can be followed leads to its place.
-/

namespace FormTemplate

/-! ## Steps -/

namespace Path

open Text (splitOnChar)

/-- The pieces that lead somewhere. -/
def leading (ps : List (List Char)) : List String :=
  (ps.filter fun p => !staysInPlace p).map String.ofList

/-- The names of a path without single dots. -/
def steps (p : List Char) : List String :=
  (names p).filter fun name => name != "."

@[simp]
theorem leading_nil : leading [] = [] := rfl

@[simp]
theorem leading_append (ps qs : List (List Char)) :
    leading (ps ++ qs) = leading ps ++ leading qs := by
  simp [leading]

theorem leading_of_staysInPlace {p : List Char} (h : staysInPlace p = true) : leading [p] = [] := by
  simp [leading, h]

theorem leading_of_leads {p : List Char} (h : staysInPlace p = false) :
    leading [p] = [String.ofList p] := by
  simp [leading, h]

theorem steps_eq (p : List Char) : steps p = leading (splitOnChar '/' p) := by
  have hdot : ∀ name : List Char,
      ((fun n : String => n != ".") ∘ String.ofList) name = !(name == ['.']) := by
    intro name
    by_cases hname : name = ['.']
    · rw [hname]
      decide
    · have hne : String.ofList name ≠ "." := fun h => hname (String.ofList_injective h)
      simp [hname, bne, beq_eq_false_iff_ne.2 hne]
  rw [steps, names, leading, List.filter_map, List.filter_filter]
  refine congrArg _ (List.filter_congr ?_)
  intro name _
  rw [hdot, staysInPlace]
  cases name <;> simp

theorem steps_slash (s t : List Char) : steps (s ++ '/' :: t) = steps s ++ steps t := by
  rw [steps_eq, steps_eq, steps_eq, Text.splitOnChar_append, leading_append]

theorem dropStays_eq_rdropWhile (ps : List (List Char)) :
    dropStays ps = ps.rdropWhile staysInPlace := rfl

theorem leading_dropStays (ps : List (List Char)) : leading (dropStays ps) = leading ps := by
  induction ps using List.reverseRecOn with
  | nil => rfl
  | append_singleton ps p ih =>
      rw [dropStays_eq_rdropWhile] at ih
      rw [dropStays_eq_rdropWhile, List.rdropWhile_concat]
      by_cases hp : staysInPlace p
      · simp [hp, ih, leading_of_staysInPlace hp]
      · simp [hp]

/-- What is left either is empty or ends in a piece that leads somewhere. -/
theorem dropStays_cases (ps : List (List Char)) :
    dropStays ps = [] ∨
      ∃ before p, dropStays ps = before ++ [p] ∧ staysInPlace p = false ∧ p ∈ ps := by
  by_cases hnil : dropStays ps = []
  · exact .inl hnil
  · have hlast : ¬ staysInPlace ((dropStays ps).getLast hnil) = true :=
      List.rdropWhile_last_not staysInPlace ps hnil
    have hbegins : dropStays ps <+: ps := List.rdropWhile_prefix staysInPlace ps
    exact .inr ⟨(dropStays ps).dropLast, (dropStays ps).getLast hnil,
      (List.dropLast_append_getLast hnil).symm, by simpa using hlast,
      hbegins.mem (List.getLast_mem hnil)⟩

theorem steps_nil : steps [] = [] := rfl

theorem steps_join {ps : List (List Char)} (h : ∀ p ∈ ps, '/' ∉ p) :
    steps (Text.join ['/'] ps) = leading ps := by
  by_cases hne : ps = []
  · rw [hne]
    rfl
  · rw [steps_eq, Text.splitOnChar_join hne h]

/-! ## Fronts -/

/-- The root, a leading dot that is a whole name, or nothing comes before the body of a path. -/
theorem frontAndBody_cases (p : List Char) :
    (∃ t, p = '/' :: t ∧ frontAndBody p = (['/'], t)) ∨
      (p = ['.'] ∧ frontAndBody p = (['.'], [])) ∨
      (∃ t, p = '.' :: '/' :: t ∧ frontAndBody p = (['.'], '/' :: t)) ∨
      (isAbsolute p = false ∧ frontAndBody p = ([], p)) := by
  unfold frontAndBody
  split
  case h_1 t => exact .inl ⟨t, rfl, rfl⟩
  case h_2 => exact .inr (.inl ⟨rfl, rfl⟩)
  case h_3 t => exact .inr (.inr (.inl ⟨t, rfl, rfl⟩))
  case h_4 hroot _ _ =>
      refine .inr (.inr (.inr ⟨?_, rfl⟩))
      cases p with
      | nil => rfl
      | cons c t =>
          have hc : c ≠ '/' := fun hc => hroot t (by rw [hc])
          simp [isAbsolute, hc]

theorem steps_dot_slash (t : List Char) : steps ('.' :: '/' :: t) = steps t :=
  steps_slash ['.'] t

theorem steps_root (t : List Char) : steps ('/' :: t) = steps t :=
  steps_slash [] t

/-- A front has no steps. -/
theorem steps_body (p : List Char) : steps p = steps (frontAndBody p).2 := by
  rcases frontAndBody_cases p with ⟨t, rfl, hp⟩ | ⟨rfl, hp⟩ | ⟨t, rfl, hp⟩ | ⟨-, hp⟩
  · rw [hp, steps_root]
  · rw [hp]
    rfl
  · rw [hp, steps_dot_slash, steps_root]
  · rw [hp]

/-- After a leading dot the pieces of a body start with an empty one. -/
theorem steps_dot_join {ps qs : List (List Char)} (h : ps <+: [] :: qs)
    (hslash : ∀ p ∈ ps, '/' ∉ p) : steps ('.' :: Text.join ['/'] ps) = leading ps := by
  cases ps with
  | nil => rfl
  | cons p ps =>
      obtain ⟨rfl, -⟩ := List.cons_prefix_cons.1 h
      cases ps with
      | nil => rfl
      | cons p ps =>
          have hjoin : Text.join ['/'] ([] :: p :: ps) = '/' :: Text.join ['/'] (p :: ps) := rfl
          rw [hjoin, steps_dot_slash, steps_join fun q hq => hslash q (List.mem_cons_of_mem [] hq)]
          rfl

/-- The front of a path with some of the first pieces of its body. -/
theorem front_append {p : List Char} {ps : List (List Char)}
    (h : ps <+: splitOnChar '/' (frontAndBody p).2) :
    steps ((frontAndBody p).1 ++ Text.join ['/'] ps) = leading ps ∧
      isAbsolute ((frontAndBody p).1 ++ Text.join ['/'] ps) = isAbsolute p := by
  have hslash : ∀ q ∈ ps, '/' ∉ q := fun q hq => Text.notMem_of_mem_splitOnChar (h.mem hq)
  have hsteps := steps_join hslash
  rcases frontAndBody_cases p with ⟨t, rfl, hp⟩ | ⟨rfl, hp⟩ | ⟨t, rfl, hp⟩ | ⟨hrelative, hp⟩
  · rw [hp]
    exact ⟨by rw [List.singleton_append, steps_root, hsteps], rfl⟩
  · rw [hp] at h ⊢
    exact ⟨steps_dot_join h hslash, rfl⟩
  · have hbody := Text.splitOnChar_append '/' [] t
    rw [hp] at h ⊢
    rw [List.nil_append] at hbody
    exact ⟨steps_dot_join (hbody ▸ h) hslash, rfl⟩
  · -- the pieces are joined to a beginning of the path
    rw [hp] at h ⊢
    have hbegins := Text.join_isPrefix ['/'] h
    rw [Text.join_splitOnChar] at hbegins
    refine ⟨by rw [List.nil_append, hsteps], ?_⟩
    rw [List.nil_append, hrelative]
    obtain ⟨rest, hrest⟩ := hbegins
    cases hjoin : Text.join ['/'] ps with
    | nil => rfl
    | cons c t =>
        have hp' : p = c :: t ++ rest := by rw [← hjoin, hrest]
        rw [hp'] at hrelative
        exact hrelative

/-! ## Parents and file names -/

/-- A path has a last step, or it has no steps at all. -/
theorem bodyNames_cases (p : List Char) :
    (bodyNames (frontAndBody p).2 = [] ∧ steps p = []) ∨
      ∃ before name, bodyNames (frontAndBody p).2 = before ++ [name] ∧
        before <+: splitOnChar '/' (frontAndBody p).2 ∧
        steps p = leading before ++ [String.ofList name] ∧ '/' ∉ name ∧
          staysInPlace name = false := by
  have hsteps : steps p = leading (bodyNames (frontAndBody p).2) := by
    rw [steps_body, steps_eq, bodyNames, leading_dropStays]
  rcases dropStays_cases (splitOnChar '/' (frontAndBody p).2) with
    hnil | ⟨before, name, hlast, hleads, hmem⟩
  · exact .inl ⟨hnil, by rw [hsteps, bodyNames, hnil, leading_nil]⟩
  · have hbegins : bodyNames (frontAndBody p).2 <+: splitOnChar '/' (frontAndBody p).2 :=
      List.rdropWhile_prefix staysInPlace _
    rw [bodyNames, hlast] at hbegins
    refine .inr ⟨before, name, hlast, (List.prefix_append before [name]).trans hbegins, ?_,
      Text.notMem_of_mem_splitOnChar hmem, hleads⟩
    rw [hsteps, bodyNames, hlast, leading_append, leading_of_leads hleads]

theorem parent?_of_bodyNames {p : List Char} {before : List (List Char)} {name : List Char}
    (h : bodyNames (frontAndBody p).2 = before ++ [name]) :
    parent? p = some ((frontAndBody p).1 ++ Text.join ['/'] (dropStays before)) := by
  simp [parent?, h]

/-- The parent of a path has all its steps but the last one. -/
theorem steps_parent? {p q : List Char} (h : parent? p = some q) :
    steps q = (steps p).dropLast ∧ isAbsolute q = isAbsolute p := by
  rcases bodyNames_cases p with ⟨hnil, hsteps⟩ | ⟨before, name, hlast, hbefore, hsteps, -, -⟩
  · -- without steps only a leading dot has a parent
    obtain ⟨hfront, rfl⟩ : (frontAndBody p).1 = ['.'] ∧ [] = q := by
      simpa [parent?, hnil] using h
    rw [hsteps]
    refine ⟨rfl, ?_⟩
    rcases frontAndBody_cases p with ⟨t, rfl, hp⟩ | ⟨rfl, -⟩ | ⟨t, rfl, -⟩ | ⟨hrelative, -⟩
    · rw [hp] at hfront
      cases hfront
    · rfl
    · rfl
    · exact hrelative.symm
  · rw [parent?_of_bodyNames hlast, Option.some.injEq] at h
    have hdrop : dropStays before <+: splitOnChar '/' (frontAndBody p).2 :=
      (List.rdropWhile_prefix staysInPlace before).trans hbefore
    obtain ⟨hq, habsolute⟩ := front_append hdrop
    rw [h] at hq habsolute
    exact ⟨by rw [hq, leading_dropStays, hsteps, List.dropLast_concat], habsolute⟩

theorem exists_parent?_of_fileName? {p name : List Char} (h : fileName? p = some name) :
    ∃ q, parent? p = some q ∧ steps p = steps q ++ [String.ofList name] ∧ '/' ∉ name ∧
      staysInPlace name = false := by
  have hlast := (Option.filter_eq_some_iff.1 h).1
  rcases bodyNames_cases p with ⟨hnil, -⟩ | ⟨before, last, hnames, -, hsteps, hslash, hleads⟩
  · rw [hnil] at hlast
    cases hlast
  · rw [hnames, List.getLast?_concat] at hlast
    cases hlast
    have hparent := parent?_of_bodyNames hnames
    refine ⟨_, hparent, ?_, hslash, hleads⟩
    rw [(steps_parent? hparent).1, hsteps, List.dropLast_concat]

/-- A file name after a path is one more step. -/
theorem steps_join_fileName (p : List Char) {name : List Char} (hslash : '/' ∉ name)
    (hleads : staysInPlace name = false) :
    steps (join p name) = steps p ++ [String.ofList name] := by
  have hname : steps name = [String.ofList name] := by
    rw [steps_eq, Text.splitOnChar_of_not_mem hslash, leading_of_leads hleads]
  unfold join
  split
  case isTrue hend =>
      rcases hend with hnil | hend
      · rw [List.isEmpty_iff.1 hnil, List.nil_append, hname]
        rfl
      · obtain ⟨r, rfl⟩ := List.getLast?_eq_some_iff.1 hend
        rw [List.append_assoc, List.singleton_append, steps_slash, hname, steps_slash]
        simp [steps_nil]
  case isFalse => rw [steps_slash, hname]

theorem isAbsolute_join {p : List Char} (hp : p ≠ []) (name : List Char) :
    isAbsolute (join p name) = isAbsolute p := by
  unfold join isAbsolute
  split <;> rw [List.head?_append_of_ne_nil _ hp]

/-- What is above a path has some of its first steps. -/
theorem steps_ancestors {n : Nat} {p q : List Char} (h : q ∈ ancestors n p) :
    steps q <+: steps p ∧ isAbsolute q = isAbsolute p := by
  induction n generalizing p with
  | zero => cases h
  | succ n ih =>
      rw [ancestors] at h
      cases hparent : parent? p with
      | none =>
          rw [hparent] at h
          rw [List.mem_singleton.1 h]
          exact ⟨List.prefix_rfl, rfl⟩
      | some r =>
          rw [hparent] at h
          obtain ⟨hsteps, habsolute⟩ := steps_parent? hparent
          rcases List.mem_cons.1 h with rfl | h
          · exact ⟨List.prefix_rfl, rfl⟩
          · obtain ⟨hbegins, hsame⟩ := ih h
            exact ⟨hbegins.trans (hsteps ▸ List.dropLast_prefix _), hsame.trans habsolute⟩

end Path

/-! ## Places -/

theorem Except.exists_of_bind_eq_ok {ε α β : Type} {x : Except ε α} {f : α → Except ε β} {b : β}
    (h : x.bind f = .ok b) : ∃ a, x = .ok a ∧ f a = .ok b := by
  cases x with
  | error e => cases h
  | ok a => exact ⟨a, rfl, h⟩

theorem Except.exists_of_map_eq_ok {ε α β : Type} {x : Except ε α} {f : α → β} {b : β}
    (h : x.map f = .ok b) : ∃ a, x = .ok a ∧ f a = b := by
  cases x with
  | error e => cases h
  | ok a => exact ⟨a, rfl, Except.ok.inj h⟩

namespace Files

variable {fs : Files} {p : List Char} {path : String} {l m : Location}

/-- The place of a name in a folder, or that of the folder around it. -/
def turn (l : Location) (name : String) : Location :=
  if name = ".." then l.tail else name :: l

/-- The place that a path starts from. -/
def origin (fs : Files) (p : List Char) : Location :=
  if Path.isAbsolute p then [] else fs.here

/-- The place that a path leads to, should it lead anywhere. -/
def place (fs : Files) (path : String) : Location :=
  (Path.steps path.toList).foldl turn (fs.origin path.toList)

/-- The places that a path leads over, the last of which is its own. -/
def trail (fs : Files) (path : String) : List Location :=
  (Path.steps path.toList).inits.map fun names => names.foldl turn (fs.origin path.toList)

theorem mem_trail_iff :
    l ∈ fs.trail path ↔
      ∃ names, names <+: Path.steps path.toList ∧
        names.foldl turn (fs.origin path.toList) = l := by
  simp [trail]

/-- A path that has some of the first steps of another one leads over fewer places. -/
theorem place_mem_trail_of_prefix {path path' : String}
    (hsteps : Path.steps path'.toList <+: Path.steps path.toList)
    (habsolute : Path.isAbsolute path'.toList = Path.isAbsolute path.toList) :
    fs.place path' ∈ fs.trail path := by
  refine mem_trail_iff.2 ⟨_, hsteps, ?_⟩
  rw [place, origin, origin, habsolute]

/-- Two paths that differ in names without a step lead over the same places. -/
theorem trail_congr {path path' : String}
    (hsteps : Path.steps path'.toList = Path.steps path.toList)
    (habsolute : Path.isAbsolute path'.toList = Path.isAbsolute path.toList) :
    fs.trail path' = fs.trail path ∧ fs.place path' = fs.place path := by
  rw [trail, trail, place, place, origin, origin, hsteps, habsolute]
  exact ⟨rfl, rfl⟩

/-! ## Following a path -/

theorem folderAt_eq_ok_iff : fs.folderAt l = .ok m ↔ fs.entry? l = some .folder ∧ m = l := by
  unfold folderAt
  cases fs.entry? l with
  | none => simp
  | some e => cases e <;> simp [eq_comm]

theorem step_eq_ok_iff {name : String} :
    fs.step l name = .ok m ↔
      fs.entry? l = some .folder ∧ m = if name = "." then l else turn l name := by
  rw [step]
  constructor
  · intro h
    obtain ⟨l', hl', hm⟩ := Except.exists_of_map_eq_ok h
    obtain ⟨hfolder, rfl⟩ := folderAt_eq_ok_iff.1 hl'
    exact ⟨hfolder, hm.symm⟩
  · rintro ⟨hfolder, rfl⟩
    rw [folderAt_eq_ok_iff.2 ⟨hfolder, rfl⟩]
    rfl

theorem eq_of_foldlM_step {names : List String} (h : names.foldlM fs.step l = .ok m) :
    m = (names.filter fun name => name != ".").foldl turn l := by
  induction names generalizing l with
  | nil => exact (Except.ok.inj h).symm
  | cons name names ih =>
      rw [List.foldlM_cons] at h
      obtain ⟨l', hl', hrest⟩ := Except.exists_of_bind_eq_ok h
      obtain ⟨-, rfl⟩ := step_eq_ok_iff.1 hl'
      rw [ih hrest]
      by_cases hname : name = "." <;> simp [hname]

/-- Names that can be followed lead to where their steps lead. -/
theorem eq_of_follow {names : List String} (h : fs.follow p names = .ok l) :
    l = (names.filter fun name => name != ".").foldl turn (fs.origin p) :=
  eq_of_foldlM_step h

/-- What can be read is there. -/
theorem contains_of_read {content : String} (h : fs.read path = .ok content) :
    fs.contains path = true := by
  obtain ⟨entry, hfind, -⟩ := Except.exists_of_bind_eq_ok h
  rw [contains, hfind]
  rfl

end Files
end FormTemplate
