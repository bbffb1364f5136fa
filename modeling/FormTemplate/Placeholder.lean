import FormTemplate.Delimiters

/-!
# Placeholder — scanning a template for its placeholders

A placeholder is an opening delimiter, blanks, a body of at least one character and no line feed,
blanks, and a closing delimiter.  Where several placeholders start at one position, the one with the
most blanks before its body is meant, then the one with the shortest body, then the one with the
most blanks after it.

* `Hole` — a placeholder taken apart;
* `hole?` — the placeholder that starts at the front of a text;
* `scan` — a template as a sequence of characters and holes, from left to right;
* `Placeholder`, `placeholders` — the holes of a template with their places in it.

Concatenating the pieces of `scan` gives the template back.
-/

namespace FormTemplate

/-- The parts of a placeholder between its delimiters. -/
structure Hole where
  /-- The blanks before the body. -/
  before : List Char
  body : List Char
  /-- The blanks after the body. -/
  after : List Char
  deriving DecidableEq

namespace Hole

def inner (h : Hole) : List Char :=
  h.before ++ h.body ++ h.after

/-- The placeholder as it is written. -/
def raw (d : Delimiters) (h : Hole) : List Char :=
  d.opening ++ h.inner ++ d.closing

/-- The body without blanks at its ends. -/
def expression (h : Hole) : List Char :=
  Text.trim h.body

end Hole

/-! ## The hole at the front of a text -/

/-- As many blanks as possible before a closing delimiter, and the text after the delimiter. -/
def closing? (d : Delimiters) (t : List Char) : Option (List Char × List Char) :=
  let here := (Text.dropPrefix? d.closing t).map fun rest => ([], rest)
  match t with
  | [] => here
  | c :: t =>
    if Text.isBlank c then ((closing? d t).map fun (blanks, rest) => (c :: blanks, rest)).or here
    else here

/-- The shortest body at the front of a text that a closing delimiter follows, the blanks after it,
and the text after the delimiter. -/
def body? (d : Delimiters) : List Char → Option (List Char × List Char × List Char)
  | [] => none
  | c :: t =>
    if c = '\n' then none
    else
      ((closing? d t).map fun (blanks, rest) => ([c], blanks, rest)).or
        ((body? d t).map fun (body, blanks, rest) => (c :: body, blanks, rest))

/-- What an opening delimiter is followed by, with as many blanks as possible before the body. -/
def inner? (d : Delimiters) (t : List Char) : Option (Hole × List Char) :=
  let here := (body? d t).map fun (body, blanks, rest) => (⟨[], body, blanks⟩, rest)
  match t with
  | [] => here
  | c :: t =>
    if Text.isBlank c then
      ((inner? d t).map fun (h, rest) => ({ h with before := c :: h.before }, rest)).or here
    else here

/-- The placeholder at the front of a text and the text after it. -/
def hole? (d : Delimiters) (t : List Char) : Option (Hole × List Char) :=
  (Text.dropPrefix? d.opening t).bind (inner? d)

/-! ## What a hole is made of -/

theorem Text.dropPrefix?_eq_some {l t rest : List Char} (h : Text.dropPrefix? l t = some rest) :
    t = l ++ rest := by
  induction l generalizing t with
  | nil => simpa [Text.dropPrefix?] using h
  | cons a l ih =>
    cases t with
    | nil => simp [Text.dropPrefix?] at h
    | cons c t =>
      by_cases hac : a = c
      · simp only [Text.dropPrefix?, hac, if_true] at h
        simp [hac, ih h]
      · simp [Text.dropPrefix?, hac] at h

theorem eq_of_closing? {d : Delimiters} {t blanks rest : List Char}
    (h : closing? d t = some (blanks, rest)) : t = blanks ++ d.closing ++ rest := by
  have here {t blanks : List Char}
      (h : ((Text.dropPrefix? d.closing t).map fun rest => (([] : List Char), rest))
        = some (blanks, rest)) : t = blanks ++ d.closing ++ rest := by
    obtain ⟨r, hr, he⟩ := Option.map_eq_some_iff.1 h
    cases he
    simpa using Text.dropPrefix?_eq_some hr
  induction t generalizing blanks with
  | nil => exact here (by simpa [closing?] using h)
  | cons c t ih =>
    rw [closing?] at h
    split at h
    · rcases Option.or_eq_some_iff.1 h with h | ⟨-, h⟩
      · obtain ⟨⟨b, r⟩, hb, he⟩ := Option.map_eq_some_iff.1 h
        cases he
        simp [ih hb]
      · exact here h
    · exact here h

theorem eq_of_body? {d : Delimiters} {t body blanks rest : List Char}
    (h : body? d t = some (body, blanks, rest)) :
    t = body ++ blanks ++ d.closing ++ rest := by
  induction t generalizing body with
  | nil => simp [body?] at h
  | cons c t ih =>
    rw [body?] at h
    split at h
    · cases h
    · rcases Option.or_eq_some_iff.1 h with h | ⟨-, h⟩
      · obtain ⟨⟨b, r⟩, hb, he⟩ := Option.map_eq_some_iff.1 h
        cases he
        simp [eq_of_closing? hb]
      · obtain ⟨⟨b, w, r⟩, hb, he⟩ := Option.map_eq_some_iff.1 h
        cases he
        simp [ih hb]

theorem eq_of_inner? {d : Delimiters} {t rest : List Char} {hole : Hole}
    (h : inner? d t = some (hole, rest)) : t = hole.inner ++ d.closing ++ rest := by
  have here {t : List Char} {hole : Hole}
      (h : ((body? d t).map fun (body, blanks, rest) => ((⟨[], body, blanks⟩ : Hole), rest))
        = some (hole, rest)) : t = hole.inner ++ d.closing ++ rest := by
    obtain ⟨⟨b, w, r⟩, hb, he⟩ := Option.map_eq_some_iff.1 h
    cases he
    simpa [Hole.inner] using eq_of_body? hb
  induction t generalizing hole with
  | nil => exact here (by simpa [inner?] using h)
  | cons c t ih =>
    rw [inner?] at h
    split at h
    · rcases Option.or_eq_some_iff.1 h with h | ⟨-, h⟩
      · obtain ⟨⟨g, r⟩, hg, he⟩ := Option.map_eq_some_iff.1 h
        cases he
        simp [Hole.inner, ih hg]
      · exact here h
    · exact here h

/-- The text before the rest is the placeholder as it is written. -/
theorem eq_of_hole? {d : Delimiters} {t rest : List Char} {hole : Hole}
    (h : hole? d t = some (hole, rest)) : t = hole.raw d ++ rest := by
  obtain ⟨u, hu, hi⟩ := Option.bind_eq_some_iff.1 h
  simp [Text.dropPrefix?_eq_some hu, eq_of_inner? hi, Hole.raw]

theorem length_lt_of_hole? {d : Delimiters} {t rest : List Char} {hole : Hole}
    (h : hole? d t = some (hole, rest)) : rest.length < t.length := by
  have ho : 0 < d.opening.length := List.length_pos_iff.2 d.opening_ne
  rw [eq_of_hole? h, Hole.raw]
  simp only [List.length_append]
  omega

/-! ## Scanning -/

/-- A piece of a template: a character outside of all placeholders, or a placeholder. -/
inductive Piece where
  | char (c : Char)
  | hole (h : Hole)
  deriving DecidableEq

namespace Piece

def raw (d : Delimiters) : Piece → List Char
  | char c => [c]
  | hole h => h.raw d

end Piece

/-- The pieces of a template, a placeholder wherever one can start. -/
def scan (d : Delimiters) (t : List Char) : List Piece :=
  match _h : hole? d t with
  | some (hole, rest) => .hole hole :: scan d rest
  | none =>
    match t with
    | [] => []
    | c :: rest => .char c :: scan d rest
termination_by t.length
decreasing_by
  · exact length_lt_of_hole? (by assumption)
  · simp

/-- A placeholder and its place in the template, counted in bytes. -/
structure Placeholder where
  start : Nat
  stop : Nat
  raw : String
  expression : String
  deriving DecidableEq

/-- The placeholders among pieces, of which the first starts at byte `start`. -/
def locate (d : Delimiters) (start : Nat) : List Piece → List Placeholder
  | [] => []
  | .char c :: ps => locate d (start + c.utf8Size) ps
  | .hole h :: ps =>
    let stop := start + Text.utf8Length (h.raw d)
    ⟨start, stop, String.ofList (h.raw d), String.ofList h.expression⟩ :: locate d stop ps

/-- The placeholders of a template from left to right. -/
def placeholders (d : Delimiters) (content : String) : List Placeholder :=
  locate d 0 (scan d content.toList)

end FormTemplate
