import FormTemplate.Profile.Toml

/-!
# Documents — configurations that are written down

A text without quotes, backslashes and control characters is written in a document by putting quotes
around it, however long it is.

* `Toml.isPlain` — the characters of such texts;
* `Toml.basic?_of_plain`, `Toml.value?_of_plain` — such a text is read back, by induction on it;
* `ProfileBook.read?_opening` — the configuration that only says what opens a placeholder.
-/

namespace FormTemplate
namespace Toml

/-! ## Plain strings -/

/-- Whether a character stands for itself between quotes. -/
def isPlain (c : Char) : Bool :=
  c != '"' && c != '\\' && !isControl c

variable {s : List Char}

theorem basic?_of_plain (hs : ∀ c ∈ s, isPlain c = true) (rest : List Char) {fuel : Nat}
    (hfuel : s.length < fuel) : basic? fuel (s ++ '"' :: rest) = some (s, rest) := by
  induction s generalizing fuel with
  | nil =>
      obtain ⟨fuel, rfl⟩ := Nat.exists_eq_succ_of_ne_zero (Nat.ne_of_gt hfuel)
      rfl
  | cons c s ih =>
      obtain ⟨fuel, rfl⟩ := Nat.exists_eq_succ_of_ne_zero (Nat.ne_zero_of_lt hfuel)
      have hc := hs c List.mem_cons_self
      simp only [isPlain, Bool.and_eq_true, bne_iff_ne, Bool.not_eq_true'] at hc
      obtain ⟨⟨hquote, hbackslash⟩, hcontrol⟩ := hc
      have hrest := ih (fun d hd => hs d (List.mem_cons_of_mem c hd)) (Nat.lt_of_succ_lt_succ hfuel)
      rw [List.cons_append, basic?]
      · simp [hcontrol, hrest]
      · exact hquote
      · exact hbackslash

/-- The text is not empty, so that its quote is not the first of three. -/
theorem string?_of_plain (hne : s ≠ []) (hs : ∀ c ∈ s, isPlain c = true) (rest : List Char) :
    string? ('"' :: (s ++ '"' :: rest)) = some (s, rest) := by
  have hfuel : s.length < ('"' :: (s ++ '"' :: rest)).length + 1 := by
    simp only [List.length_cons, List.length_append]
    omega
  have hbasic := basic?_of_plain hs rest hfuel
  obtain ⟨c, s, rfl⟩ := List.exists_cons_of_ne_nil hne
  have hquote : c ≠ '"' := by
    rintro rfl
    exact absurd (hs _ List.mem_cons_self) (by decide)
  rw [List.cons_append] at hbasic ⊢
  -- neither of the forms with three quotes
  rw [string?]
  · exact hbasic
  · rintro t ht
    exact hquote (List.cons.inj ht).1

theorem value?_of_plain (depth fuel : Nat) (hne : s ≠ []) (hs : ∀ c ∈ s, isPlain c = true)
    (rest : List Char) :
    value? depth (fuel + 1) ('"' :: (s ++ '"' :: rest)) = some (.string (String.ofList s), rest) := by
  rw [value?, string?_of_plain hne hs]
  rfl

/-! ## A document of two lines -/

def versionLine : List Char :=
  ['v', 'e', 'r', 's', 'i', 'o', 'n', ' ', '=', ' ', '1', '\n']

def openingKey : List Char :=
  ['p', 'r', 'o', 'f', 'i', 'l', 'e', 's', '.', 'd', 'e', 'f', 'a', 'u', 'l', 't', '.', 'o', 'p',
    'e', 'n', ' ', '=', ' ']

/-- The entries of a document with the version and one opening delimiter. -/
def openingEntries (opening : String) : Entries :=
  [("version", .value (.integer 1)),
    ("profiles", .table .dotted
      [("default", .table .dotted [("open", .value (.string opening))])])]

/-- The line with the delimiter is the last one. -/
theorem lines_opening (fuel : Nat) (hne : s ≠ []) (hs : ∀ c ∈ s, isPlain c = true) :
    lines {} (fuel + 3) (versionLine ++ (openingKey ++ '"' :: (s ++ ['"', '\n']))) =
      some ⟨openingEntries (String.ofList s), []⟩ := by
  -- the reader computes on all that is fixed, whatever text is behind it
  let d : Document := ⟨[("version", .value (.integer 1))], []⟩
  have hversion : ∀ t, lines {} (fuel + 3) (versionLine ++ t) = lines d (fuel + 2) t :=
    fun _ => rfl
  have hline : ∀ t, lines d (fuel + 2) (openingKey ++ t) =
      (assignment? d (openingKey ++ t)).bind fun read => lines read.1 (fuel + 1) read.2 :=
    fun _ => rfl
  have hkey : ∀ t, keyPath? ((openingKey ++ t).length + 1) (openingKey ++ t) =
      some ((["profiles", "default"], "open"), '=' :: ' ' :: t) :=
    fun _ => rfl
  have hblank : skipBlanks (' ' :: '"' :: (s ++ ['"', '\n'])) = '"' :: (s ++ ['"', '\n']) := rfl
  rw [hversion, hline, assignment?, hkey]
  simp only [Option.bind_some, hblank, value?_of_plain _ _ hne hs]
  rfl

end Toml

/-! ## The configuration -/

/-- Whatever opens a placeholder, if it is plain, all else is as it is by default. -/
theorem ProfileBook.read?_opening {opening : String} (hne : opening ≠ "")
    (hplain : ∀ c ∈ opening.toList, Toml.isPlain c = true) :
    read? ("version = 1\nprofiles.default.open = \"" ++ opening ++ "\"\n") =
      some ⟨1, none, [("default", { opening })], {}⟩ := by
  let t := Toml.versionLine ++ (Toml.openingKey ++ '"' :: (opening.toList ++ ['"', '\n']))
  have htext : ("version = 1\nprofiles.default.open = \"" ++ opening ++ "\"\n").toList = t := by
    have hfront : "version = 1\nprofiles.default.open = \"".toList =
        Toml.versionLine ++ Toml.openingKey ++ ['"'] := by
      decide +kernel
    have hback : "\"\n".toList = ['"', '\n'] := by
      decide
    simp only [String.toList_append, hfront, hback, List.append_assoc, List.cons_append,
      List.nil_append, t]
  have hlines : Toml.lines {} (t.length + 2) t = some ⟨Toml.openingEntries opening, []⟩ := by
    have hchars : opening.toList ≠ [] := by
      simpa using hne
    have hread := Toml.lines_opening (t.length - 1) hchars hplain
    have hfuel : t.length - 1 + 3 = t.length + 2 := by
      have hpos : 0 < t.length := Nat.succ_pos _
      omega
    rwa [hfuel, String.ofList_toList] at hread
  have hmark : t.head? ≠ some Toml.byteOrderMark := by
    have hfirst : t.head? = some 'v' := rfl
    rw [hfirst]
    decide
  rw [read?, Toml.read?, htext]
  simp only [if_neg hmark, hlines]
  rfl

end FormTemplate
