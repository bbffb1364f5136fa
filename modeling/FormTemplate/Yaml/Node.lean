import FormTemplate.Yaml.Token

/-!
# Node — the documents of a YAML stream

`Yaml.documents?` builds the tree of every document of a stream.  An alias is replaced by the node
that its anchor stands at.  A place where a node may be left out has an empty plain scalar.
-/

namespace FormTemplate
namespace Yaml

/-- A node with its tag, if it has one. -/
inductive Node where
  | scalar (tag : Option String) (plain : Bool) (text : String)
  | sequence (tag : Option String) (items : List Node)
  | mapping (tag : Option String) (pairs : List (Node × Node))

namespace Node

/-- What stands where nothing is written. -/
def missing : Node :=
  .scalar none true ""

end Node

/-- What is known while a document is built. -/
structure Context where
  /-- The handles that directives declare, with what they stand for. -/
  handles : List (List Char × List Char) := []
  anchors : List (List Char × Node) := []

/-- What handles stand for unless a directive says otherwise. -/
def standardHandles : List (List Char × List Char) :=
  [(['!'], ['!']), (['!', '!'], "tag:yaml.org,2002:".toList)]

namespace Context

def resolve? (x : Context) (t : Tag) : Option String :=
  if t.handle.isEmpty then some (String.ofList t.suffix)
  else
    ((x.handles.lookup t.handle).or (standardHandles.lookup t.handle)).map fun pre =>
      String.ofList (pre ++ t.suffix)

end Context

/-- The state of a builder: what it knows and the tokens that are left. -/
structure Builder where
  context : Context
  tokens : List Token

namespace Builder

def moveTo (ts : List Token) (b : Builder) : Builder :=
  { b with tokens := ts }

/-- Gives a name to a node. -/
def name (anchor : Option (List Char)) (n : Node) (b : Builder) : Builder :=
  match anchor with
  | some a => { b with context := { b.context with anchors := (a, n) :: b.context.anchors } }
  | none => b

end Builder

/-- What may stand before a node. -/
structure Properties where
  anchor : Option (List Char) := none
  tag : Option Tag := none

/-- An anchor and a tag in either order, and the tokens after them. -/
def properties : List Token → Properties × List Token
  | .anchor a :: .tag t :: ts => (⟨some a, some t⟩, ts)
  | .tag t :: .anchor a :: ts => (⟨some a, some t⟩, ts)
  | .anchor a :: ts => (⟨some a, none⟩, ts)
  | .tag t :: ts => (⟨none, some t⟩, ts)
  | ts => ({}, ts)

/-! ## Where a node is left out -/

def endsEntry : Token → Bool
  | .blockEntry => true
  | .blockEnd => true
  | _ => false

def endsPair : Token → Bool
  | .key => true
  | .value => true
  | .blockEnd => true
  | _ => false

def endsIndentless (t : Token) : Bool :=
  endsEntry t || endsPair t

def endsFlowItem : Token → Bool
  | .flowEntry => true
  | .flowSequenceEnd => true
  | _ => false

def endsFlowField : Token → Bool
  | .flowEntry => true
  | .flowMappingEnd => true
  | _ => false

def isValueMark : Token → Bool
  | .value => true
  | _ => false

/-! ## Nodes -/

mutual

/-- A node; in a block it may be a block collection, and after a key a sequence that is not
indented. -/
def node? (inBlock indentless : Bool) : Nat → Builder → Option (Node × Builder)
  | 0, _ => none
  | fuel + 1, b =>
    match b.tokens with
    | .alias a :: ts => (b.context.anchors.lookup a).map fun n => (n, b.moveTo ts)
    | tokens =>
      let (p, ts) := properties tokens
      let resolved : Option (Option String) :=
        match p.tag with
        | none => some none
        | some t => (b.context.resolve? t).map some
      resolved.bind fun tag =>
        let finish (r : Option (Node × Builder)) : Option (Node × Builder) :=
          r.map fun (n, b) => (n, b.name p.anchor n)
        let items (r : Option (List Node × Builder)) : Option (Node × Builder) :=
          finish (r.map fun (ns, b) => (.sequence tag ns, b))
        let pairs (r : Option (List (Node × Node) × Builder)) : Option (Node × Builder) :=
          finish (r.map fun (ns, b) => (.mapping tag ns, b))
        match ts with
        | .scalar plain text :: ts =>
          finish (some (.scalar tag plain (String.ofList text), b.moveTo ts))
        | .flowSequenceStart :: ts => items (flowItems? true fuel (b.moveTo ts))
        | .flowMappingStart :: ts => pairs (flowPairs? true fuel (b.moveTo ts))
        | .blockSequenceStart :: rest =>
          if inBlock then items (blockItems? fuel (b.moveTo rest))
          else leftOut p tag (b.moveTo ts)
        | .blockMappingStart :: rest =>
          if inBlock then pairs (blockPairs? fuel (b.moveTo rest))
          else leftOut p tag (b.moveTo ts)
        | .blockEntry :: _ =>
          if indentless then items (indentlessItems? fuel (b.moveTo ts))
          else leftOut p tag (b.moveTo ts)
        | _ => leftOut p tag (b.moveTo ts)

/-- The node after a mark, unless a token stands there that shows it was left out. -/
def nodeOrMissing? (inBlock indentless : Bool) (ends : Token → Bool) :
    Nat → Builder → Option (Node × Builder)
  | 0, _ => none
  | fuel + 1, b =>
    if b.tokens.head?.any ends then some (.missing, b) else node? inBlock indentless fuel b

/-- The entries of a block sequence up to its end. -/
def blockItems? : Nat → Builder → Option (List Node × Builder)
  | 0, _ => none
  | fuel + 1, b =>
    match b.tokens with
    | .blockEntry :: ts =>
      (nodeOrMissing? true false endsEntry fuel (b.moveTo ts)).bind fun (n, b) =>
        (blockItems? fuel b).map fun (ns, b) => (n :: ns, b)
    | .blockEnd :: ts => some ([], b.moveTo ts)
    | _ => none

/-- The entries of a sequence that ends with its last entry. -/
def indentlessItems? : Nat → Builder → Option (List Node × Builder)
  | 0, _ => none
  | fuel + 1, b =>
    match b.tokens with
    | .blockEntry :: ts =>
      (nodeOrMissing? true false endsIndentless fuel (b.moveTo ts)).bind fun (n, b) =>
        (indentlessItems? fuel b).map fun (ns, b) => (n :: ns, b)
    | _ => some ([], b)

/-- The pairs of a block mapping up to its end. -/
def blockPairs? : Nat → Builder → Option (List (Node × Node) × Builder)
  | 0, _ => none
  | fuel + 1, b =>
    match b.tokens with
    | .key :: ts =>
      (nodeOrMissing? true true endsPair fuel (b.moveTo ts)).bind fun (k, b) =>
        let value :=
          match b.tokens with
          | .value :: ts => nodeOrMissing? true true endsPair fuel (b.moveTo ts)
          | _ => some (.missing, b)
        value.bind fun (v, b) => (blockPairs? fuel b).map fun (ps, b) => ((k, v) :: ps, b)
    | .blockEnd :: ts => some ([], b.moveTo ts)
    | _ => none

/-- The items of a bracketed sequence up to its end.  A key makes an item a mapping of one pair. -/
def flowItems? (first : Bool) : Nat → Builder → Option (List Node × Builder)
  | 0, _ => none
  | fuel + 1, b =>
    let item (b : Builder) : Option (List Node × Builder) :=
      match b.tokens with
      | .flowSequenceEnd :: ts => some ([], b.moveTo ts)
      | .key :: ts =>
        let b := b.moveTo ts
        let key :=
          if b.tokens.head?.any fun t => isValueMark t || endsFlowItem t then
            some (.missing, b.moveTo b.tokens.tail)
          else node? false false fuel b
        key.bind fun (k, b) =>
          let value :=
            match b.tokens with
            | .value :: ts => nodeOrMissing? false false endsFlowItem fuel (b.moveTo ts)
            | _ => some (.missing, b)
          value.bind fun (v, b) =>
            (flowItems? false fuel b).map fun (ns, b) => (.mapping none [(k, v)] :: ns, b)
      | _ =>
        (node? false false fuel b).bind fun (n, b) =>
          (flowItems? false fuel b).map fun (ns, b) => (n :: ns, b)
    match b.tokens with
    | .flowSequenceEnd :: ts => some ([], b.moveTo ts)
    | .flowEntry :: ts => if first then item b else item (b.moveTo ts)
    | _ => if first then item b else none

/-- The pairs of a braced mapping up to its end. -/
def flowPairs? (first : Bool) : Nat → Builder → Option (List (Node × Node) × Builder)
  | 0, _ => none
  | fuel + 1, b =>
    let pair (b : Builder) : Option (List (Node × Node) × Builder) :=
      match b.tokens with
      | .flowMappingEnd :: ts => some ([], b.moveTo ts)
      | .key :: ts =>
        (nodeOrMissing? false false (fun t => isValueMark t || endsFlowField t) fuel
            (b.moveTo ts)).bind fun (k, b) =>
          let value :=
            match b.tokens with
            | .value :: ts => nodeOrMissing? false false endsFlowField fuel (b.moveTo ts)
            | _ => some (.missing, b)
          value.bind fun (v, b) =>
            (flowPairs? false fuel b).map fun (ps, b) => ((k, v) :: ps, b)
      | _ =>
        (node? false false fuel b).bind fun (k, b) =>
          (flowPairs? false fuel b).map fun (ps, b) => ((k, .missing) :: ps, b)
    match b.tokens with
    | .flowMappingEnd :: ts => some ([], b.moveTo ts)
    | .flowEntry :: ts => if first then pair b else pair (b.moveTo ts)
    | _ => if first then pair b else none

/-- A node of which only its properties are written. -/
def leftOut (p : Properties) (tag : Option String) (b : Builder) : Option (Node × Builder) :=
  if p.anchor.isNone && p.tag.isNone then none
  else
    let n : Node := .scalar tag true ""
    some (n, b.name p.anchor n)

end

/-! ## Documents -/

/-- The directives before a document, of which there is one version and one of each handle. -/
def directives? (version : Bool) (handles : List (List Char × List Char)) :
    List Token → Option (List (List Char × List Char) × List Token)
  | .versionDirective :: ts => if version then none else directives? true handles ts
  | .tagDirective handle pre :: ts =>
    if (handles.lookup handle).isSome then none
    else directives? version ((handle, pre) :: handles) ts
  | ts => some (handles, ts)

def skipDocumentEnds : List Token → List Token
  | .documentEnd :: ts => skipDocumentEnds ts
  | ts => ts

def endsDocument : Token → Bool
  | .versionDirective => true
  | .tagDirective _ _ => true
  | .documentStart => true
  | .documentEnd => true
  | .streamEnd => true
  | _ => false

/-- The rest of a document, and the tokens after the mark that ends it. -/
def document? (b : Builder) : Option (Node × List Token) :=
  let fuel := 3 * b.tokens.length + 3
  (node? true false fuel b).map fun (n, b) =>
    match b.tokens with
    | .documentEnd :: ts => (n, ts)
    | ts => (n, ts)

/-- A document that starts with directives and a mark. -/
def markedDocument? (ts : List Token) : Option (Node × List Token) :=
  (directives? false [] ts).bind fun (handles, ts) =>
    match ts with
    | .documentStart :: ts =>
      if ts.head?.any endsDocument then
        match ts with
        | .documentEnd :: ts => some (.missing, ts)
        | ts => some (.missing, ts)
      else document? ⟨{ handles }, ts⟩
    | _ => none

/-- The documents after the first one. -/
def moreDocuments? : Nat → List Token → Option (List Node)
  | 0, _ => none
  | fuel + 1, ts =>
    match skipDocumentEnds ts with
    | [.streamEnd] => some []
    | ts =>
      (markedDocument? ts).bind fun (n, ts) => (moreDocuments? fuel ts).map (n :: ·)

/-- The documents of a stream.  Only the first one needs no mark. -/
def documents? (text : List Char) : Option (List Node) :=
  (tokens? text).bind fun ts =>
    let starts (t : Token) : Bool :=
      match t with
      | .versionDirective => true
      | .tagDirective _ _ => true
      | .documentStart => true
      | .streamEnd => true
      | _ => false
    if ts.head?.any starts then moreDocuments? (ts.length + 1) ts
    else
      (document? ⟨{}, ts⟩).bind fun (n, ts) => (moreDocuments? (ts.length + 1) ts).map (n :: ·)

end Yaml
end FormTemplate
