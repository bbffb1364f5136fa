import FormTemplate.Text.Split

/-!
# Arguments — options and operands of a command line

* `Switch` — what an option is called and what its argument may be;
* `Given` — the options and operands that were given, in order;
* `Switch.scan` — reads arguments up to the end, or up to the first operand.

An argument of an option follows it, after an equals sign or as the next word, which must not look
like an option.  After two hyphens every word is an operand.
-/

namespace FormTemplate

/-- Why arguments do not ask for a command. -/
inductive Stop where
  /-- They are not understood. -/
  | usage
  | version
  | help
  deriving DecidableEq

/-- What an option is good for. -/
inductive SwitchKind where
  /-- It is there or not. -/
  | flag
  /-- It has a path, which is not empty. -/
  | path
  | text
  /-- It has a text and may be given several times. -/
  | texts
  | stop (s : Stop)
  deriving DecidableEq

/-- Whether an option ends the command line, whatever comes after it. -/
def SwitchKind.ends : SwitchKind → Bool
  | .stop _ => true
  | _ => false

structure Switch where
  long : String
  short : Option Char := none
  kind : SwitchKind

structure Given where
  /-- The long names of the options with their arguments. -/
  options : List (String × String) := []
  operands : List String := []

namespace Given

/-- The argument of an option that is given at most once. -/
def get? (name : String) (g : Given) : Option String :=
  g.options.lookup name

def getAll (name : String) (g : Given) : List String :=
  (g.options.filter fun o => o.1 == name).map Prod.snd

def has (name : String) (g : Given) : Bool :=
  (g.get? name).isSome

def addOperands (words : List String) (g : Given) : Given :=
  { g with operands := g.operands ++ words }

/-- Adds an option, which fails for a second one and for an empty path. -/
def addOption (s : Switch) (argument : String) (g : Given) : Except Stop Given :=
  if s.kind = .path ∧ argument.isEmpty then .error .usage
  else if s.kind ≠ .texts ∧ g.has s.long then .error .usage
  else .ok { g with options := g.options ++ [(s.long, argument)] }

end Given

namespace Switch

/-! ## Words -/

/-- Whether a word looks like an option. -/
def looksLikeOption (word : List Char) : Bool :=
  word.head? == some '-' && 1 < word.length

/-- The option that a word is, and the argument that is part of the word. -/
def ofWord? (switches : List Switch) (word : List Char) : Option (Switch × Option (List Char)) :=
  match word with
  | '-' :: '-' :: t =>
    let (name, argument) :=
      match Text.splitFirst ['='] t with
      | some (name, argument) => (name, some argument)
      | none => (t, none)
    (switches.find? fun s => s.long.toList == name).map fun s => (s, argument)
  | '-' :: c :: t =>
    (switches.find? fun s => s.short == some c).map fun s =>
      if t.isEmpty ∨ s.kind.ends then (s, none)
      else (s, some (if t.head? = some '=' then t.tail else t))
  | _ => none

/-! ## Scanning -/

/-- Reads words into `g`.  If `first` is true the first operand ends the scan.  Gives the words that
are left. -/
def scan (switches : List Switch) (first : Bool) (g : Given) :
    List String → Except Stop (Given × List String)
  | [] => .ok (g, [])
  | word :: rest =>
    if word = "--" then
      if first then .error .usage else .ok (g.addOperands rest, [])
    else if looksLikeOption word.toList then
      match ofWord? switches word.toList with
      | none => .error .usage
      | some (s, argument) =>
        match s.kind, argument, rest with
        | .stop stop, none, _ => .error stop
        | .stop _, some _, _ => .error .usage
        | .flag, none, rest => (g.addOption s "").bind fun g => scan switches first g rest
        | .flag, some _, _ => .error .usage
        | _, some argument, rest =>
          (g.addOption s (String.ofList argument)).bind fun g => scan switches first g rest
        | _, none, next :: rest =>
          if looksLikeOption next.toList then .error .usage
          else (g.addOption s next).bind fun g => scan switches first g rest
        | _, none, [] => .error .usage
    else if first then .ok (g, word :: rest)
    else scan switches first (g.addOperands [word]) rest

end Switch
end FormTemplate
