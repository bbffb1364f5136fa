import FormTemplate.Logging
import FormTemplate.Proofs.Files.Places

/-!
# Changes — what file operations leave as it was

* `Files.Keeps` — all is as it was, save for some places that may be different and others where a
  folder may be new;
* `Files.Spares` — the same for the files at some paths and the folders on the way to them;
* `Files.keeps_makeChain` — a chain of folders, some of which have been made when it breaks;
* `Files.spares_write`, `Files.read_of_write` — a written file has the text, and all else is spared;
* `LogSettings.spares_start` — starting to log spares everything but the log file.

A path that goes back by two dots also leads over the folders that it goes back from.
-/

namespace FormTemplate
namespace Files

variable {fs fs' fs'' : Files} {l m : Location} {e : FileEntry} {path : String}

/-! ## Putting an entry -/

theorem lookup_filter_ne (h : m ≠ l) (entries : List (Location × FileEntry)) :
    (entries.filter fun old => old.1 != l).lookup m = entries.lookup m := by
  induction entries with
  | nil => rfl
  | cons old entries ih =>
      obtain ⟨place, e⟩ := old
      by_cases hplace : place = l
      · have hm : (m == place) = false := beq_eq_false_iff_ne.2 (hplace ▸ h)
        simp [hplace, List.lookup_cons, ih, hplace ▸ hm]
      · simp [hplace, List.lookup_cons, ih]

theorem entry?_put (hl : l ≠ []) (m : Location) :
    entry? m (fs.put l e) = if m = l then some e else fs.entry? m := by
  cases m with
  | nil => rw [if_neg (Ne.symm hl)]; rfl
  | cons name outer =>
      have hne : (name :: outer).isEmpty = false := rfl
      simp only [put, entry?, hne, Bool.false_eq_true, if_false, List.lookup_cons]
      by_cases hm : name :: outer = l
      · simp [hm]
      · simp [hm, beq_eq_false_iff_ne.2 hm, lookup_filter_ne hm]

/-! ## What is kept -/

/-- All is as it was, but what is at some places, and new folders at others where nothing was. -/
structure Keeps (written made : Location → Prop) (fs fs' : Files) : Prop where
  here : fs'.here = fs.here
  entry : ∀ l, fs'.entry? l = fs.entry? l ∨ written l ∨
    (fs.entry? l = none ∧ fs'.entry? l = some .folder ∧ made l)

/-- Only the files at some paths may be different, and folders may be new on the way to them. -/
def Spares (paths : List String) (fs fs' : Files) : Prop :=
  Keeps (fun l => ∃ path ∈ paths, l = fs.place path) (fun l => ∃ path ∈ paths, l ∈ fs.trail path)
    fs fs'

theorem place_congr (h : fs'.here = fs.here) (path : String) : fs'.place path = fs.place path := by
  rw [place, place, origin, origin, h]

theorem trail_eq_of_here (h : fs'.here = fs.here) (path : String) :
    fs'.trail path = fs.trail path := by
  rw [trail, trail, origin, origin, h]

namespace Keeps

variable {written made written' made' : Location → Prop}

theorem refl (fs : Files) : Keeps written made fs fs :=
  ⟨rfl, fun _ => .inl rfl⟩

theorem mono (h : Keeps written made fs fs') (hwritten : ∀ l, written l → written' l)
    (hmade : ∀ l, made l → made' l) : Keeps written' made' fs fs' := by
  refine ⟨h.here, ?_⟩
  intro l
  rcases h.entry l with hsame | hl | ⟨hnone, hfolder, hl⟩
  · exact .inl hsame
  · exact .inr (.inl (hwritten l hl))
  · exact .inr (.inr ⟨hnone, hfolder, hmade l hl⟩)

theorem trans (h : Keeps written made fs fs') (h' : Keeps written made fs' fs'') :
    Keeps written made fs fs'' := by
  refine ⟨h'.here.trans h.here, ?_⟩
  intro l
  rcases h'.entry l with hsame | hl | ⟨hnone, hfolder, hl⟩
  · rw [hsame]
    exact h.entry l
  · exact .inr (.inl hl)
  · -- nothing was there before either, for a folder that had been made would still be there
    rcases h.entry l with hsame | hl' | ⟨-, hfolder', -⟩
    · exact .inr (.inr ⟨hsame ▸ hnone, hfolder, hl⟩)
    · exact .inr (.inl hl')
    · rw [hnone] at hfolder'
      cases hfolder'

end Keeps

namespace Spares

variable {paths paths' : List String}

theorem refl (paths : List String) (fs : Files) : Spares paths fs fs :=
  Keeps.refl fs

theorem trans (h : Spares paths fs fs') (h' : Spares paths fs' fs'') : Spares paths fs fs'' := by
  unfold Spares at h'
  simp only [place_congr h.here, trail_eq_of_here h.here] at h'
  exact Keeps.trans h h'

theorem mono (h : Spares paths fs fs') (hpaths : paths ⊆ paths') : Spares paths' fs fs' := by
  refine Keeps.mono h ?_ ?_
  all_goals
    rintro l ⟨path, hpath, hl⟩
    exact ⟨path, hpaths hpath, hl⟩

end Spares

theorem Keeps.spares
    (h : Keeps (fun l => l = fs.place path) (fun l => l ∈ fs.trail path) fs fs') :
    Spares [path] fs fs' :=
  h.mono (fun _ hl => ⟨path, List.mem_singleton_self path, hl⟩)
    (fun _ hl => ⟨path, List.mem_singleton_self path, hl⟩)

/-! ## New places -/

/-- Something new is put at the place of its path, which is in a folder that is there. -/
theorem newPlace_eq_some (h : fs.newPlace path.toList = .ok (some l)) :
    path.toList ≠ [] ∧ ∃ names name outer, Path.names path.toList = names ++ [name] ∧
      fs.follow path.toList names = .ok outer ∧ fs.entry? outer = some .folder ∧
        name ≠ "." ∧ name ≠ ".." ∧ l = name :: outer := by
  unfold newPlace at h
  split at h
  case isTrue => cases h
  case isFalse hp =>
      rcases List.eq_nil_or_concat (Path.names path.toList) with hnames | ⟨names, name, hnames⟩
      · simp [hnames] at h
      · simp only [hnames, List.concat_eq_append, List.getLast?_concat,
          List.dropLast_concat] at h
        obtain ⟨outer, hfollow, houter⟩ := Except.exists_of_bind_eq_ok h
        obtain ⟨outer', hfolder, hplace⟩ := Except.exists_of_map_eq_ok houter
        obtain ⟨hentry, rfl⟩ := folderAt_eq_ok_iff.1 hfolder
        split at hplace
        case isTrue => cases hplace
        case isFalse hname =>
            rw [not_or] at hname
            exact ⟨by simpa using hp, names, name, outer', by simpa using hnames, hfollow, hentry,
              hname.1, hname.2, (Option.some.inj hplace).symm⟩

theorem place_of_newPlace (h : fs.newPlace path.toList = .ok (some l)) :
    l = fs.place path ∧ l ≠ [] := by
  obtain ⟨-, names, name, outer, hnames, hfollow, -, hdot, hdots, rfl⟩ := newPlace_eq_some h
  refine ⟨?_, List.cons_ne_nil name outer⟩
  rw [place, Path.steps, hnames, List.filter_append, List.foldl_append, ← eq_of_follow hfollow]
  simp [hdot, turn, hdots]

theorem filePlace_eq_ok (h : fs.filePlace path = .ok l) :
    fs.newPlace path.toList = .ok (some l) ∧ Path.endsInSlash path.toList = false ∧
      fs.entry? l ≠ some .folder := by
  obtain ⟨place?, hplace, hfile⟩ := Except.exists_of_bind_eq_ok h
  cases place? with
  | none => cases hfile
  | some l' =>
      simp only at hfile
      split at hfile
      case isTrue => cases hfile
      case isFalse hopen =>
          rw [not_or] at hopen
          cases hfile
          exact ⟨hplace, by simpa using hopen.1, hopen.2⟩

/-! ## New folders -/

theorem keeps_createFolder (h : fs.createFolder path = .ok fs') :
    Keeps (fun _ => False) (fun l => l = fs.place path) fs fs' := by
  obtain ⟨place?, hplace, hput⟩ := Except.exists_of_bind_eq_ok h
  cases place? with
  | none => cases hput
  | some l =>
      obtain ⟨rfl, hne⟩ := place_of_newPlace hplace
      simp only at hput
      split at hput
      case isTrue => cases hput
      case isFalse hnone =>
          cases hput
          refine ⟨rfl, ?_⟩
          intro m
          rw [entry?_put hne]
          by_cases hm : m = fs.place path
          · exact .inr (.inr ⟨by simpa [hm] using hnone, if_pos hm, hm⟩)
          · exact .inl (if_neg hm)

/-- Whether or not the whole chain can be made, its folders are all that is new. -/
theorem keeps_makeChain {made : Location → Prop} {paths : List String}
    (h : ∀ path ∈ paths, path ≠ "" → made (fs.place path)) :
    Keeps (fun _ => False) made fs (makeChain paths fs).1 := by
  induction paths with
  | nil => exact .refl fs
  | cons path outer ih =>
      have houter := ih fun p hp => h p (List.mem_cons_of_mem path hp)
      rw [makeChain]
      split
      case isTrue => exact .refl fs
      case isFalse hpath =>
          have hmade := h path List.mem_cons_self fun hempty => hpath (by rw [hempty]; rfl)
          -- the same folder is asked for before and after those around it
          have hfolder : ∀ fs₁ fs₂ : Files, fs₁.here = fs.here →
              fs₁.createFolder path = .ok fs₂ → Keeps (fun _ => False) made fs₁ fs₂ :=
            fun fs₁ fs₂ hhere hcreate => (keeps_createFolder hcreate).mono (fun _ => id)
              fun l hl => hl ▸ place_congr hhere path ▸ hmade
          split
          case h_1 fs₁ hcreate => exact hfolder fs fs₁ rfl hcreate
          case h_3 => exact .refl fs
          case h_2 =>
              -- the folders around it come first, and the folder may then be new
              cases hchain : makeChain outer fs with
              | mk fs₁ result =>
                  rw [hchain] at houter
                  cases result with
                  | error fault => exact houter
                  | ok _ =>
                      dsimp only
                      split
                      case h_1 fs₂ hcreate =>
                          exact houter.trans (hfolder fs₁ fs₂ houter.here hcreate)
                      case h_2 => exact houter

/-- The folders around a path are on the way to it. -/
theorem keeps_makeFolders_parent (fs : Files) (path : String) :
    Keeps (fun _ => False) (fun l => l ∈ fs.trail path) fs
      (fs.makeFolders (String.ofList ((Path.parent? path.toList).getD []))).1 := by
  rw [makeFolders]
  refine keeps_makeChain ?_
  intro path' hpath' hne
  obtain ⟨q, hq, rfl⟩ := List.mem_map.1 hpath'
  rw [String.toList_ofList] at hq
  cases hparent : Path.parent? path.toList with
  | none =>
      -- without a parent only the empty path is asked for, which makes nothing
      rw [hparent] at hq
      have hnil : q = [] := List.mem_singleton.1 hq
      exact absurd (congrArg String.ofList hnil) hne
  | some r =>
      rw [hparent, Option.getD_some] at hq
      obtain ⟨hsteps, habsolute⟩ := Path.steps_ancestors hq
      obtain ⟨hr, hr'⟩ := Path.steps_parent? hparent
      refine place_mem_trail_of_prefix ?_ ?_
      · rw [String.toList_ofList]
        exact hsteps.trans (hr ▸ List.dropLast_prefix _)
      · rw [String.toList_ofList, habsolute, hr']

/-! ## New texts -/

theorem keeps_put {made : Location → Prop} (hl : l ≠ []) :
    Keeps (fun m => m = l) made fs (fs.put l e) := by
  refine ⟨rfl, ?_⟩
  intro m
  rw [entry?_put hl]
  by_cases hm : m = l
  · exact .inr (.inl hm)
  · exact .inl (if_neg hm)

theorem spares_write {content : String} (h : fs.write path content = .ok fs') :
    Spares [path] fs fs' := by
  obtain ⟨l, hplace, rfl⟩ := Except.exists_of_map_eq_ok h
  obtain ⟨rfl, hne⟩ := place_of_newPlace (filePlace_eq_ok hplace).1
  exact (keeps_put hne).spares

theorem spares_touch (h : fs.touch path = .ok fs') : Spares [path] fs fs' := by
  obtain ⟨l, hplace, rfl⟩ := Except.exists_of_map_eq_ok h
  obtain ⟨rfl, hne⟩ := place_of_newPlace (filePlace_eq_ok hplace).1
  split
  case isTrue => exact .refl [path] fs
  case isFalse => exact (keeps_put hne).spares

theorem spares_makeFolders_parent (fs : Files) (path : String) :
    Spares [path] fs (fs.makeFolders (String.ofList ((Path.parent? path.toList).getD []))).1 :=
  ((keeps_makeFolders_parent fs path).mono (fun _ => False.elim) fun _ => id).spares

/-- Names that could be followed can still be followed where all folders have stayed. -/
theorem foldlM_step_mono {names : List String}
    (hfolder : ∀ m, fs.entry? m = some .folder → fs'.entry? m = some .folder)
    (h : names.foldlM fs.step l = .ok m) : names.foldlM fs'.step l = .ok m := by
  induction names generalizing l with
  | nil => exact h
  | cons name names ih =>
      rw [List.foldlM_cons] at h
      obtain ⟨l', hstep, hrest⟩ := Except.exists_of_bind_eq_ok h
      obtain ⟨hentry, hl'⟩ := step_eq_ok_iff.1 hstep
      have hstep' : fs'.step l name = .ok l' := step_eq_ok_iff.2 ⟨hfolder l hentry, hl'⟩
      rw [List.foldlM_cons, hstep']
      exact ih hrest

/-- A file that has been written is read back. -/
theorem read_of_write {content : String} (h : fs.write path content = .ok fs') :
    fs'.read path = .ok content := by
  obtain ⟨l, hplace, hfs'⟩ := Except.exists_of_map_eq_ok h
  obtain ⟨hnew, hslash, hfile⟩ := filePlace_eq_ok hplace
  obtain ⟨hp, names, name, outer, hnames, hfollow, houter, hdot, hdots, rfl⟩ := newPlace_eq_some hnew
  have hput : ∀ m, fs'.entry? m =
      if m = name :: outer then some (.text content) else fs.entry? m := by
    rw [← hfs']
    exact entry?_put (List.cons_ne_nil name outer)
  have hhere : fs'.here = fs.here := by rw [← hfs']; rfl
  -- only the place of the file is different, and that was no folder
  have hfolder : ∀ m, fs.entry? m = some .folder → fs'.entry? m = some .folder := by
    intro m hm
    have hne : m ≠ name :: outer := fun hm' => hfile (hm' ▸ hm)
    rw [hput, if_neg hne, hm]
  have hlocate : fs'.locate path = .ok (name :: outer) := by
    have hbefore : fs'.follow path.toList names = .ok outer := by
      rw [follow, hhere]
      exact foldlM_step_mono hfolder hfollow
    have hlast : fs'.step outer name = .ok (name :: outer) :=
      step_eq_ok_iff.2 ⟨hfolder outer houter, by simp [hdot, hdots, turn]⟩
    have hall : fs'.follow path.toList (Path.names path.toList) = .ok (name :: outer) := by
      rw [follow] at hbefore
      rw [hnames, follow, List.foldlM_append, hbefore]
      exact congrArg (·.bind Except.ok) hlast
    have hp' : path.toList.isEmpty = false := by simpa using hp
    simp only [locate, hp', hall, hslash, Except.bind, Bool.false_eq_true, if_false]
  have hentry : fs'.entry? (name :: outer) = some (.text content) := by rw [hput, if_pos rfl]
  rw [read, find, hlocate]
  simp only [Except.bind, hentry]

end Files

/-! ## The log file -/

namespace LogSettings

open Files

/-- The log file is where its path leads, however the end of the path is written. -/
theorem steps_logFile {p name : List Char} (h : Path.fileName? p = some name) :
    Path.steps (Path.join (((Path.parent? p).filter fun q => !q.isEmpty).getD ['.']) name) =
        Path.steps p ∧
      Path.isAbsolute (Path.join (((Path.parent? p).filter fun q => !q.isEmpty).getD ['.']) name) =
        Path.isAbsolute p := by
  obtain ⟨q, hparent, hsteps, hslash, hleads⟩ := Path.exists_parent?_of_fileName? h
  obtain ⟨-, habsolute⟩ := Path.steps_parent? hparent
  rw [hparent, Path.steps_join_fileName _ hslash hleads, hsteps, ← habsolute]
  cases q with
  | nil => exact ⟨rfl, Path.isAbsolute_join (List.cons_ne_nil '.' []) name⟩
  | cons c q => exact ⟨rfl, Path.isAbsolute_join (List.cons_ne_nil c q) name⟩

theorem spares_openFile (path : String) (fs : Files) : Spares [path] fs (openFile path fs).1 := by
  rw [openFile]
  cases hname : Path.fileName? path.toList with
  | none => exact .refl [path] fs
  | some name =>
      obtain ⟨hsteps, habsolute⟩ := steps_logFile hname
      dsimp only
      generalize Path.join (((Path.parent? path.toList).filter fun q => !q.isEmpty).getD ['.']) name =
        file at hsteps habsolute ⊢
      have hfile : ∀ {fs' : Files}, Spares [String.ofList file] fs fs' → Spares [path] fs fs' := by
        intro fs' h
        have hsame : fs.trail (String.ofList file) = fs.trail path ∧
            fs.place (String.ofList file) = fs.place path :=
          trail_congr (by rw [String.toList_ofList, hsteps])
            (by rw [String.toList_ofList, habsolute])
        obtain ⟨htrail, hplace⟩ := hsame
        simpa only [Spares, List.mem_singleton, exists_eq_left, htrail, hplace] using h
      -- the file is tried, then the folders around it, then the file once more
      have hfolders := spares_makeFolders_parent fs (String.ofList file)
      rw [String.toList_ofList] at hfolders
      cases htouch : fs.touch (String.ofList file) with
      | ok fs₁ => exact hfile (spares_touch htouch)
      | error _ =>
          dsimp only
          cases hmade : fs.makeFolders (String.ofList ((Path.parent? file).getD [])) with
          | mk fs₁ result =>
              rw [hmade] at hfolders
              cases result with
              | error cause => exact hfile hfolders
              | ok _ =>
                  dsimp only
                  cases htouch : fs₁.touch (String.ofList file) with
                  | error cause => exact hfile hfolders
                  | ok fs₂ => exact hfile (hfolders.trans (spares_touch htouch))

theorem spares_start (e : Environment) (l : LogSettings) (fs : Files) :
    Spares l.file.toList fs (l.start e fs).1 := by
  unfold start
  cases l.checkTerminal e with
  | error fault => exact .refl _ fs
  | ok _ =>
      cases l.file with
      | none => exact .refl _ fs
      | some path =>
          have hopen := spares_openFile path fs
          dsimp only
          cases hresult : openFile path fs with
          | mk fs₁ result =>
              rw [hresult] at hopen
              cases result with
              | error fault => exact hopen
              | ok _ => exact hopen

end LogSettings
end FormTemplate
