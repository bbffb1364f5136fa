import FormTemplate.Proofs.Configuration.Documents
import FormTemplate.Proofs.Files.Places
import FormTemplate.Proofs.Lexicon.Layering

/-!
# Outcomes — what loading a configuration gives

A configuration can be at fault in several ways at once.  Each of them is judged here by itself, and
loading tells of the first.  What it looks at besides the version, the choice of a profile and the
log settings is one profile, so that the others may be anything.

* `Profile.delimiterFaults` — all that is wrong with the delimiters of a profile;
* `ProfileBook.faults` — all that is wrong with a book of profiles for one who asks for a profile;
* `Configuration.resolve_eq_error_iff`, `Configuration.resolve_of_sound` — the first fault is
  reported, and without one there is a configuration;
* `Configuration.resolve_of_agrees` — books that agree about the active profile resolve alike;
* `load_reports_first_fault` — all of this for a file.

The reader of the documents is not looked into: what holds of a file holds of whatever book is read
from it.
-/

namespace FormTemplate

deriving instance DecidableEq for Profile, LogSettings, ProfileBook

/-! ## Faults -/

/-- The delimiters that are empty. -/
def Profile.emptyDelimiters (p : Profile) : List EmptyDelimiter :=
  [(p.opening, .opening), (p.closing, .closing), (p.separator, .separator)].filterMap
    fun (text, which) => if text = "" then some which else none

/-- The pattern of placeholders is judged whether or not a delimiter is empty. -/
def Profile.delimiterFaults (p : Profile) : List DelimiterFault :=
  p.emptyDelimiters.map .empty ++
    match Pattern.compile (Delimiters.patternText p.opening p.closing) with
    | .error fault => [.pattern fault]
    | .ok _ => []

/-- Whether the path of the log file has a reference without a value. -/
def LogSettings.misses (e : Environment) (l : LogSettings) : Bool :=
  l.file.any fun path => (e.expand? path).isNone

/-- All that is wrong with a book, whatever else is. -/
def ProfileBook.faults (e : Environment) (asked : Option String) (b : ProfileBook) :
    List ConfigurationFault :=
  let name := b.activeName asked
  (if b.version = supportedVersion then [] else [.unsupportedVersion b.version]) ++
    (if b.profiles = [] then [.noProfiles] else []) ++
    (match b.profiles.lookup name with
      | none => [.unknownProfile name]
      | some p => p.delimiterFaults.map (.invalidDelimiters name)) ++
    (if b.logging.misses e then [.noHome] else [])

variable {e : Environment} {asked : Option String} {b b' : ProfileBook}

/-! ## Parts of a configuration -/

namespace Profile

variable {p : Profile}

theorem dialect_eq_error_iff {fault : DelimiterFault} :
    p.dialect = .error fault ↔ p.delimiterFaults.head? = some fault := by
  unfold dialect Delimiters.make delimiterFaults emptyDelimiters
  -- the checks in their order, each one reached if those before it passed
  by_cases hopening : p.opening = ""
  · simp [hopening, Except.map]
  · by_cases hclosing : p.closing = ""
    · simp [hopening, hclosing, Except.map]
    · by_cases hseparator : p.separator = ""
      · simp [hopening, hclosing, hseparator, Except.map]
      · cases Pattern.compile (Delimiters.patternText p.opening p.closing) with
        | error fault => simp [hopening, hclosing, hseparator, Except.map]
        | ok q => simp [hopening, hclosing, hseparator, Except.map]

theorem exists_dialect_of_nil (h : p.delimiterFaults = []) : ∃ dialect, p.dialect = .ok dialect := by
  cases hdialect : p.dialect with
  | ok dialect => exact ⟨dialect, rfl⟩
  | error fault =>
      have hfault := dialect_eq_error_iff.1 hdialect
      rw [h] at hfault
      cases hfault

/-- The pattern of placeholders is well formed, and large only for long delimiters. -/
theorem tooLarge_of_pattern_mem {fault : PatternFault} (h : .pattern fault ∈ p.delimiterFaults) :
    fault = .tooLarge ∧ 320000 < p.opening.utf8ByteSize + p.closing.utf8ByteSize := by
  have hcompile : Pattern.compile (Delimiters.patternText p.opening p.closing) = .error fault := by
    cases hpattern : Pattern.compile (Delimiters.patternText p.opening p.closing) with
    | error other => simpa [delimiterFaults, hpattern, eq_comm] using h
    | ok q => simp [delimiterFaults, hpattern] at h
  refine ⟨(Delimiters.compile_patternText_eq_error_iff.1 hcompile).1, Nat.lt_of_not_le ?_⟩
  intro hshort
  obtain ⟨q, hq⟩ := Delimiters.exists_compile_patternText hshort
  rw [hcompile] at hq
  cases hq

end Profile

namespace Configuration

theorem expandFile_of_misses {l : LogSettings} (h : l.misses e = true) :
    expandFile e l = .error .noHome := by
  unfold expandFile
  cases hfile : l.file with
  | none => simp [LogSettings.misses, hfile] at h
  | some path =>
      have hnone : e.expand? path = none := by
        simpa [LogSettings.misses, hfile] using h
      simp [hnone]

/-- Expansion is about the file and leaves the levels alone. -/
theorem expandFile_of_not_misses {l : LogSettings} (h : l.misses e = false) :
    expandFile e l = .ok { l with file := l.file.bind e.expand? } := by
  unfold expandFile
  cases hfile : l.file with
  | none =>
      cases l
      simp_all
  | some path =>
      have hsome : (e.expand? path).isSome = true := by
        simpa [LogSettings.misses, hfile] using h
      obtain ⟨expanded, hexpanded⟩ := Option.isSome_iff_exists.1 hsome
      simp [hexpanded]

/-! ## The first fault -/

theorem resolve_eq_error_iff {source : String} {fault : ConfigurationFault} :
    resolve e asked source b = .error fault ↔ (b.faults e asked).head? = some fault := by
  unfold resolve ProfileBook.faults
  by_cases hversion : b.version = ProfileBook.supportedVersion
  case neg => simp [hversion]
  case pos =>
    by_cases hempty : b.profiles = []
    case pos => simp [hversion, hempty]
    case neg =>
      cases hp : b.profiles.lookup (b.activeName asked) with
      | none => simp [hversion, hempty, hp]
      | some p =>
          cases hdelimiters : p.delimiterFaults with
          | cons fault rest =>
              have hdialect : p.dialect = .error fault :=
                Profile.dialect_eq_error_iff.2 (by rw [hdelimiters]; rfl)
              simp [hversion, hempty, hp, hdialect, hdelimiters]
          | nil =>
              obtain ⟨dialect, hdialect⟩ := Profile.exists_dialect_of_nil hdelimiters
              cases hmisses : b.logging.misses e with
              | true =>
                  simp [hversion, hempty, hp, hdialect, hdelimiters,
                    expandFile_of_misses hmisses, Except.map]
              | false =>
                  simp [hversion, hempty, hp, hdialect, hdelimiters,
                    expandFile_of_not_misses hmisses, Except.map]

/-- A book without faults has an active profile with a dialect, and that is what it resolves to. -/
theorem resolve_of_sound (h : b.faults e asked = []) (source : String) :
    ∃ p dialect, b.profiles.lookup (b.activeName asked) = some p ∧ p.dialect = .ok dialect ∧
      resolve e asked source b =
        .ok ⟨b.activeName asked, some source, dialect,
          { b.logging with file := b.logging.file.bind e.expand? }⟩ := by
  simp only [ProfileBook.faults, List.append_eq_nil_iff] at h
  obtain ⟨⟨⟨hversion, hempty⟩, hactive⟩, hhome⟩ := h
  have hmisses : b.logging.misses e = false := by
    simpa using hhome
  cases hp : b.profiles.lookup (b.activeName asked) with
  | none => simp [hp] at hactive
  | some p =>
      have hdelimiters : p.delimiterFaults = [] := by
        simpa [hp] using hactive
      obtain ⟨dialect, hdialect⟩ := Profile.exists_dialect_of_nil hdelimiters
      refine ⟨p, dialect, rfl, hdialect, ?_⟩
      have hsupported : b.version = ProfileBook.supportedVersion := by
        simpa using hversion
      have hsome : b.profiles ≠ [] := by
        simpa using hempty
      simp [resolve, hsupported, hsome, hp, hdialect, expandFile_of_not_misses hmisses, Except.map]

end Configuration

/-- What is wrong with the delimiters of a book is wrong with those of its active profile. -/
theorem ProfileBook.exists_of_invalidDelimiters_mem {name : String} {fault : DelimiterFault}
    (h : .invalidDelimiters name fault ∈ b.faults e asked) :
    name = b.activeName asked ∧
      ∃ p, b.profiles.lookup name = some p ∧ fault ∈ p.delimiterFaults := by
  cases hp : b.profiles.lookup (b.activeName asked) with
  | none => simp [faults, hp] at h
  | some p =>
      have hmem : fault ∈ p.delimiterFaults ∧ b.activeName asked = name := by
        simpa [faults, hp] using h
      obtain ⟨hfault, rfl⟩ := hmem
      exact ⟨rfl, p, hp, hfault⟩

/-! ## Other profiles -/

/-- What two books have to share to resolve alike for one who asks for a profile: everything but the
profiles that are not in use.  Where nothing is in use, both have profiles or neither has any. -/
structure ProfileBook.Agrees (asked : Option String) (b b' : ProfileBook) : Prop where
  version : b'.version = b.version
  chosen : b'.chosen = b.chosen
  logging : b'.logging = b.logging
  active : b'.profiles.lookup (b.activeName asked) = b.profiles.lookup (b.activeName asked)
  none_in_use : b.profiles.lookup (b.activeName asked) = none →
    (b'.profiles = [] ↔ b.profiles = [])

namespace ProfileBook.Agrees

theorem activeName (h : b.Agrees asked b') : b'.activeName asked = b.activeName asked := by
  rw [ProfileBook.activeName, h.chosen, ProfileBook.activeName]

theorem profiles_eq_nil_iff (h : b.Agrees asked b') : b'.profiles = [] ↔ b.profiles = [] := by
  cases hp : b.profiles.lookup (b.activeName asked) with
  | none => exact h.none_in_use hp
  | some p =>
      -- a profile that is found is one of the profiles
      have hsome : ∀ ps : List (String × Profile),
          ps.lookup (b.activeName asked) = some p → ps ≠ [] := by
        rintro ps hps rfl
        cases hps
      have hother := hsome _ (h.active.trans hp)
      have hown := hsome _ hp
      simp [hother, hown]

theorem faults (h : b.Agrees asked b') : b'.faults e asked = b.faults e asked := by
  simp only [ProfileBook.faults, h.version, h.logging, h.activeName, h.active,
    h.profiles_eq_nil_iff]

end ProfileBook.Agrees

/-- Profiles that are not in use do not matter. -/
theorem Configuration.resolve_of_agrees (h : b.Agrees asked b') (source source' : String) :
    resolve e asked source' b' =
      (resolve e asked source b).map fun c => { c with source := some source' } := by
  cases hfaults : b.faults e asked with
  | cons fault rest =>
      have hfirst : (b.faults e asked).head? = some fault := by
        rw [hfaults]
        rfl
      have herror' := (h.faults (e := e)).symm ▸ hfirst
      rw [resolve_eq_error_iff.2 hfirst, resolve_eq_error_iff.2 herror']
      rfl
  | nil =>
      obtain ⟨p, dialect, hp, hdialect, hresolve⟩ := resolve_of_sound hfaults source
      obtain ⟨p', dialect', hp', hdialect', hresolve'⟩ :=
        resolve_of_sound (h.faults.trans hfaults) source'
      rw [h.activeName, h.active, hp] at hp'
      cases hp'
      rw [hdialect] at hdialect'
      cases hdialect'
      rw [hresolve, hresolve', h.activeName, h.logging]
      rfl

/-! ## Loading a file -/

/-- A file that can be read resolves as the book in it does. -/
theorem Configuration.load_of_read {fs : Files} {path : Option String} {text : String}
    (asked : Option String) (hread : fs.read (path.getD e.configPath) = .ok text)
    (hbook : ProfileBook.read? text = some b) :
    load e fs path asked = resolve e asked (path.getD e.configPath) b := by
  simp [load, readBook, Files.contains_of_read hread, hread, hbook, Except.bind]

/-- Loading a configuration from a file with a book of profiles fails exactly if something is wrong
with the book, and then tells of the first such thing: the version, the lack of profiles, the lack of
the profile that is asked for, or chosen, or else called `default`, the first of its delimiters that
is empty, delimiters that are too large for a pattern of placeholders, the path of the log file.
Only delimiters of more than 320000 bytes together can be too large.  Otherwise there is a
configuration with the dialect of that profile and under its name, which comes from that file; its log
settings are those of the book, with the path expanded.  Files whose books agree about all of this,
and have the same profile in use, give the same but for the place they come from. -/
theorem load_reports_first_fault {e : Environment} {fs : Files} {path : Option String}
    {text : String} {b : ProfileBook} (asked : Option String)
    (hread : fs.read (path.getD e.configPath) = .ok text) (hbook : ProfileBook.read? text = some b) :
    (∀ fault, Configuration.load e fs path asked = .error fault ↔
        (b.faults e asked).head? = some fault) ∧
      (∀ name fault, .invalidDelimiters name (.pattern fault) ∈ b.faults e asked →
        fault = .tooLarge ∧ ∃ p, b.profiles.lookup name = some p ∧
          320000 < p.opening.utf8ByteSize + p.closing.utf8ByteSize) ∧
      (b.faults e asked = [] → ∃ c p, Configuration.load e fs path asked = .ok c ∧
        c.profile = b.activeName asked ∧
        b.profiles.lookup c.profile = some p ∧ p.dialect = .ok c.dialect ∧
        c.source = some (path.getD e.configPath) ∧
        c.logging.level = b.logging.level ∧ c.logging.fileLevel = b.logging.fileLevel ∧
        c.logging.file = b.logging.file.bind e.expand?) ∧
      ∀ (fs' : Files) (path' : Option String) (text' : String) (b' : ProfileBook),
        fs'.read (path'.getD e.configPath) = .ok text' → ProfileBook.read? text' = some b' →
          b.Agrees asked b' →
            Configuration.load e fs' path' asked =
              (Configuration.load e fs path asked).map fun c =>
                { c with source := some (path'.getD e.configPath) } := by
  have hload := Configuration.load_of_read asked hread hbook
  refine ⟨?_, ?_, ?_, ?_⟩
  · intro fault
    rw [hload]
    exact Configuration.resolve_eq_error_iff
  · intro name fault hmem
    obtain ⟨-, p, hp, hfault⟩ := ProfileBook.exists_of_invalidDelimiters_mem hmem
    obtain ⟨htooLarge, hlong⟩ := Profile.tooLarge_of_pattern_mem hfault
    exact ⟨htooLarge, p, hp, hlong⟩
  · intro hsound
    obtain ⟨p, dialect, hp, hdialect, hresolve⟩ :=
      Configuration.resolve_of_sound hsound (path.getD e.configPath)
    exact ⟨_, p, hload.trans hresolve, rfl, hp, hdialect, rfl, rfl, rfl, rfl⟩
  · intro fs' path' text' b' hread' hbook' hagrees
    rw [hload, Configuration.load_of_read asked hread' hbook']
    exact Configuration.resolve_of_agrees hagrees _ _

/-- A profile that cannot be used harms only those who ask for it. -/
theorem load_reports_first_fault_spoiled :
    let e : Environment := { settings := ∅ }
    let plain := "version = 1\n[logging]\nlevel = \"debug\"\n[profiles.default]\n"
    let spoiled := plain ++ "[profiles.spoiled]\nopen = \"\"\nclose = \"\"\n"
    let fs : Files := ⟨[(["a"], .text plain), (["b"], .text spoiled)], []⟩
    (∃ c, Configuration.load e fs (some "a") none = .ok c ∧ c.profile = "default" ∧
        c.source = some "a" ∧ c.logging.level = "debug") ∧
      Configuration.load e fs (some "b") none =
        (Configuration.load e fs (some "a") none).map (fun c => { c with source := some "b" }) ∧
      Configuration.load e fs (some "b") (some "spoiled") =
        .error (.invalidDelimiters "spoiled" (.empty .opening)) := by
  intro e plain spoiled fs
  let b : ProfileBook := ⟨1, none, [("default", {})], { level := "debug" }⟩
  let b' : ProfileBook :=
    ⟨1, none, [("default", {}), ("spoiled", { opening := "", closing := "" })], { level := "debug" }⟩
  have hbook : ProfileBook.read? plain = some b := by decide +kernel
  have hbook' : ProfileBook.read? spoiled = some b' := by decide +kernel
  have hread : fs.read ((some "a").getD e.configPath) = .ok plain := by decide +kernel
  have hread' : fs.read ((some "b").getD e.configPath) = .ok spoiled := by decide +kernel
  have hagrees : b.Agrees none b' := by
    constructor <;> decide +kernel
  obtain ⟨-, -, hsound, hsame⟩ := load_reports_first_fault none hread hbook
  obtain ⟨hfault, -⟩ := load_reports_first_fault (some "spoiled") hread' hbook'
  refine ⟨?_, hsame fs (some "b") spoiled b' hread' hbook' hagrees,
    (hfault _).2 (by decide +kernel)⟩
  obtain ⟨c, p, hc, hprofile, -, -, hsource, hlevel, -⟩ := hsound (by decide +kernel)
  exact ⟨c, hc, hprofile, hsource, hlevel⟩

/-- Version, profiles, the active one among them, three delimiters with something in them and no log
file: there is nothing left to be wrong but the size of a delimiter. -/
theorem load_refuses_long_delimiter :
    let e : Environment := { settings := ∅ }
    let p : Profile := { opening := Text.repeated 330000 'a' }
    let b : ProfileBook := ⟨1, none, [("default", p)], {}⟩
    let text := "version = 1\nprofiles.default.open = \"" ++ p.opening ++ "\"\n"
    let fs : Files := ⟨[(["c"], .text text)], []⟩
    fs.read "c" = .ok text ∧ ProfileBook.read? text = some b ∧
      b.version = ProfileBook.supportedVersion ∧
      b.profiles.lookup (b.activeName none) = some p ∧ p.emptyDelimiters = [] ∧
      b.logging.misses e = false ∧
      Configuration.load e fs (some "c") none =
        .error (.invalidDelimiters "default" (.pattern .tooLarge)) := by
  intro e p b text fs
  have hopening : p.opening ≠ "" := Text.repeated_ne_empty (by decide) 'a'
  have hplain : ∀ c ∈ p.opening.toList, Toml.isPlain c = true := by
    intro c hc
    rw [Text.eq_of_mem_repeated hc]
    decide
  have hread : fs.read "c" = .ok text := rfl
  have hbook : ProfileBook.read? text = some b := ProfileBook.read?_opening hopening hplain
  have hlong : 330000 ≤ p.opening.utf8ByteSize + p.closing.utf8ByteSize := by
    rw [Text.utf8ByteSize_repeated 330000 'a']
    exact Nat.le_add_right _ _
  have hclosing : p.closing ≠ "" := by
    decide
  have hseparator : p.separator ≠ "" := by
    decide
  have hdialect := Profile.dialect_eq_tooLarge hopening hclosing hseparator hlong
  have hempty : p.emptyDelimiters = [] := by
    simp [Profile.emptyDelimiters, hopening, hclosing, hseparator]
  -- whatever the profile is, the book has no fault but those of its delimiters
  have hfaults : ∀ q : Profile, (ProfileBook.mk 1 none [("default", q)] {}).faults e none =
      q.delimiterFaults.map (.invalidDelimiters "default") :=
    fun _ => List.append_nil _
  have hfirst : (b.faults e none).head? =
      some (.invalidDelimiters "default" (.pattern .tooLarge)) := by
    rw [hfaults p, List.head?_map, Profile.dialect_eq_error_iff.1 hdialect]
    rfl
  refine ⟨hread, hbook, rfl, rfl, hempty, rfl, ?_⟩
  rw [Configuration.load_of_read none hread hbook]
  exact Configuration.resolve_eq_error_iff.2 hfirst

end FormTemplate
