import SecretVault.Yaml.Layout
import SecretVault.Yaml.Node

/-!
Reading the nodes of a document off its tokens, which are asked for one at a time. A node may have
an anchor, and an alias stands for the node that has it. Blocks and brackets hold the same sequences
and mappings.
-/

namespace SecretVault.Yaml

/-- What the handles of tags abbreviate. -/
abbrev Handles := List (String × String)

/-- The handles that need no directive. -/
def defaultHandles : Handles :=
  [("!", "!"), ("!!", Tag.standard)]

/-- What is known while nodes are read. -/
structure Reading where
  layout : Layout
  handles : Handles
  nodes : Nodes
  /-- The nodes of the anchors so far. -/
  anchors : List (String × Nat)

abbrev Read (α : Type) := StateT Reading (Except Error) α

namespace Read

def fail {α : Type} : Read α :=
  fun _ => .error .malformed

/-- Ends the reading where sequences and mappings lie too deep in one another. -/
def tooDeep {α : Type} : Read α :=
  fun _ => .error (.fault .endless)

def peek : Read (Option Token) := do
  let (token, layout) ← (← get).layout.next
  modify fun r => { r with layout := layout }
  return token

def skip : Read Unit :=
  modify fun r => { r with layout := r.layout.take }

/-- Goes over the comma between two items in brackets. -/
def separator : Read Unit := do
  match ← peek with
  | some .flowEntry => skip
  | _ => fail

/-- Adds a node, and tells its number. -/
def add (tag : Tag) (content : Content) : Read Nat := do
  let id := (← get).nodes.size
  modify fun r => { r with nodes := r.nodes.push ⟨tag, content⟩ }
  return id

def addEmpty : Read Nat :=
  add .null (.scalar [])

/-- Adds a node under an anchor. No two nodes may have the same. -/
def addAnchored (anchor : Option String) (tag : Tag) (content : Content) : Read Nat := do
  match anchor with
  | none => add tag content
  | some name =>
    if (← get).anchors.any (·.1 == name) then fail
    else
      let id ← add tag content
      modify fun r => { r with anchors := (name, id) :: r.anchors }
      return id

def fill (id : Nat) (content : Content) : Read Unit :=
  modify fun r => { r with nodes := r.nodes.fill id content }

def aliased (name : String) : Read Nat := do
  match (← get).anchors.find? (·.1 == name) with
  | none => fail
  | some (_, id) => return id

end Read

/-- A tag written out. -/
def TagName.text? (handles : Handles) (name : TagName) : Option String :=
  match name.handle with
  | none => some name.suffix
  | some handle => (handles.find? (·.1 == handle)).map fun (_, meaning) => meaning ++ name.suffix

/-- What stands before a node: an anchor and a tag, in either order. -/
structure Properties where
  anchor : Option String
  tag : Option TagName

/-- Reads the properties before a node. -/
def properties : Read Properties := do
  match ← Read.peek with
  | some (.anchor a) =>
    Read.skip
    match ← Read.peek with
    | some (.tag t) =>
      Read.skip
      return ⟨some a, some t⟩
    | _ => return ⟨some a, none⟩
  | some (.tag t) =>
    Read.skip
    match ← Read.peek with
    | some (.anchor a) =>
      Read.skip
      return ⟨some a, some t⟩
    | _ => return ⟨none, some t⟩
  | _ => return ⟨none, none⟩

/-- The tag of a node written out. A tag that is a mark alone asks for the type of plain text. -/
def tagOf (p : Properties) : Read (Option String) := do
  match p.tag with
  | none => return none
  | some name =>
    match name.text? (← get).handles with
    | none => Read.fail
    | some text => return some text

/-- The type of a scalar. -/
def scalarTag (tag : Option String) (text : CodePoints) (plain : Bool) : Tag :=
  match tag with
  | none => if plain then Tag.ofPlain text.shown else .text
  | some "!" => Tag.ofPlain text.shown
  | some name => Tag.ofName name

/-- The type of a sequence or mapping. -/
def partsTag (tag : Option String) (fallback : Tag) : Tag :=
  match tag with
  | none => fallback
  | some "!" => fallback
  | some name => Tag.ofName name

/-- Where a node stands: in brackets, in a block, or as key or value of a block, where the entries
of a sequence need no indentation. -/
inductive Place where
  | flow
  | block
  | pair
  deriving DecidableEq

/-- Whether the token ends a key or a value of a block before it starts. -/
def endsPart : Option Token → Bool
  | some .key => true
  | some .value => true
  | some .blockEnd => true
  | _ => false

/-- Whether the token ends an entry of a block before it starts. -/
def endsEntry : Option Token → Bool
  | some .blockEntry => true
  | some .blockEnd => true
  | _ => false

/-- Whether the token ends a part in brackets before it starts, `close` being the closing one. -/
def endsFlowPart (close : Token → Bool) : Option Token → Bool
  | some .flowEntry => true
  | some t => close t
  | none => false

def closesSequence : Token → Bool
  | .flowSequenceEnd => true
  | _ => false

def closesMapping : Token → Bool
  | .flowMappingEnd => true
  | _ => false

def isValue : Option Token → Bool
  | some .value => true
  | _ => false

/-- How many sequences and mappings may lie in one another. -/
def deepest : Nat := 487

/-- Adds a node of which nothing but properties is written. -/
def bare (p : Properties) (tag : Option String) : Read Nat :=
  if p.anchor.isSome || tag.isSome then
    Read.addAnchored p.anchor (scalarTag tag [] true) (.scalar [])
  else Read.fail

/-- Adds a sequence and reads its items, which may name the sequence itself. -/
def sequence (p : Properties) (tag : Option String) (items : Read (List Nat)) : Read Nat := do
  let id ← Read.addAnchored p.anchor (partsTag tag .sequence) (.sequence [])
  Read.fill id (.sequence (← items))
  return id

/-- Adds a mapping and reads its pairs, which may name the mapping itself. -/
def mapping (p : Properties) (tag : Option String) (pairs : Read (List (Nat × Nat))) :
    Read Nat := do
  let id ← Read.addAnchored p.anchor (partsTag tag .mapping) (.mapping [])
  Read.fill id (.mapping (← pairs))
  return id

mutual

/-- Reads a node, within a number of steps, and a number of sequences and mappings in one another.
-/
def node : Nat → Nat → Place → Read Nat
  | 0, _, _ => Read.fail
  | fuel + 1, depth, place => do
    match ← Read.peek with
    | some (.alias name) =>
      Read.skip
      Read.aliased name
    | _ =>
      let p ← properties
      let tag ← tagOf p
      match ← Read.peek with
      | some (.scalar text plain) =>
        Read.skip
        Read.addAnchored p.anchor (scalarTag tag text plain) (.scalar text)
      | some .flowSequenceStart => sequence p tag (flowItems fuel depth)
      | some .flowMappingStart => mapping p tag (flowPairs fuel depth)
      | some .sequenceStart =>
        if place == .flow then bare p tag else sequence p tag (entries fuel depth)
      | some .mappingStart =>
        if place == .flow then bare p tag else mapping p tag (pairs fuel depth)
      | some .blockEntry =>
        if place == .pair then sequence p tag (looseEntries fuel depth) else bare p tag
      | _ => bare p tag

/-- Reads a sequence in a block. -/
def entries : Nat → Nat → Read (List Nat)
  | 0, _ => Read.fail
  | _, 0 => Read.tooDeep
  | fuel + 1, depth + 1 => do
    Read.skip
    restOfEntries fuel depth

def restOfEntries : Nat → Nat → Read (List Nat)
  | 0, _ => Read.fail
  | fuel + 1, depth => do
    match ← Read.peek with
    | some .blockEntry =>
      Read.skip
      let item ← if endsEntry (← Read.peek) then Read.addEmpty else node fuel depth .block
      return item :: (← restOfEntries fuel depth)
    | some .blockEnd =>
      Read.skip
      return []
    | _ => Read.fail

/-- Reads a sequence that is not indented. -/
def looseEntries : Nat → Nat → Read (List Nat)
  | 0, _ => Read.fail
  | _, 0 => Read.tooDeep
  | fuel + 1, depth + 1 => restOfLooseEntries fuel depth

def restOfLooseEntries : Nat → Nat → Read (List Nat)
  | 0, _ => Read.fail
  | fuel + 1, depth => do
    match ← Read.peek with
    | some .blockEntry =>
      Read.skip
      let next ← Read.peek
      let item ← if endsEntry next || endsPart next then Read.addEmpty else node fuel depth .block
      return item :: (← restOfLooseEntries fuel depth)
    | _ => return []

/-- Reads a mapping in a block. -/
def pairs : Nat → Nat → Read (List (Nat × Nat))
  | 0, _ => Read.fail
  | _, 0 => Read.tooDeep
  | fuel + 1, depth + 1 => do
    Read.skip
    restOfPairs fuel depth

def restOfPairs : Nat → Nat → Read (List (Nat × Nat))
  | 0, _ => Read.fail
  | fuel + 1, depth => do
    match ← Read.peek with
    | some .key =>
      Read.skip
      let key ← if endsPart (← Read.peek) then Read.addEmpty else node fuel depth .pair
      let value ← if isValue (← Read.peek) then do
          Read.skip
          if endsPart (← Read.peek) then Read.addEmpty else node fuel depth .pair
        else Read.addEmpty
      return (key, value) :: (← restOfPairs fuel depth)
    | some .blockEnd =>
      Read.skip
      return []
    | _ => Read.fail

/-- Reads the value after a key in brackets. -/
def flowValue : Nat → Nat → (Token → Bool) → Read Nat
  | 0, _, _ => Read.fail
  | fuel + 1, depth, close => do
    if isValue (← Read.peek) then
      Read.skip
      if endsFlowPart close (← Read.peek) then Read.addEmpty else node fuel depth .flow
    else Read.addEmpty

/-- Reads the key after its mark, and the value, in brackets. -/
def flowPair : Nat → Nat → (Token → Bool) → Read (Nat × Nat)
  | 0, _, _ => Read.fail
  | fuel + 1, depth, close => do
    Read.skip
    let next ← Read.peek
    let key ← if isValue next || endsFlowPart close next then Read.addEmpty
      else node fuel depth .flow
    return (key, ← flowValue fuel depth close)

/-- Reads a mapping of one pair that stands in a sequence in brackets. -/
def onePair : Nat → Nat → Read (List (Nat × Nat))
  | 0, _ => Read.fail
  | _, 0 => Read.tooDeep
  | fuel + 1, depth + 1 => return [← flowPair fuel depth closesSequence]

/-- Reads a sequence in brackets. -/
def flowItems : Nat → Nat → Read (List Nat)
  | 0, _ => Read.fail
  | _, 0 => Read.tooDeep
  | fuel + 1, depth + 1 => do
    Read.skip
    restOfFlowItems fuel depth true

/-- Reads the items of a sequence in brackets up to its end. An item that is a key with its value is
a mapping of one pair. -/
def restOfFlowItems : Nat → Nat → Bool → Read (List Nat)
  | 0, _, _ => Read.fail
  | fuel + 1, depth, first => do
    if (← Read.peek).any closesSequence then
      Read.skip
      return []
    else
      if !first then Read.separator
      match ← Read.peek with
      | some .flowSequenceEnd =>
        Read.skip
        return []
      | some .key =>
        let item ← mapping ⟨none, none⟩ none (onePair fuel depth)
        return item :: (← restOfFlowItems fuel depth false)
      | _ =>
        let item ← node fuel depth .flow
        return item :: (← restOfFlowItems fuel depth false)

/-- Reads a mapping in brackets. -/
def flowPairs : Nat → Nat → Read (List (Nat × Nat))
  | 0, _ => Read.fail
  | _, 0 => Read.tooDeep
  | fuel + 1, depth + 1 => do
    Read.skip
    restOfFlowPairs fuel depth true

/-- Reads the pairs of a mapping in brackets up to its end. An item that is no pair is a key. -/
def restOfFlowPairs : Nat → Nat → Bool → Read (List (Nat × Nat))
  | 0, _, _ => Read.fail
  | fuel + 1, depth, first => do
    if (← Read.peek).any closesMapping then
      Read.skip
      return []
    else
      if !first then Read.separator
      match ← Read.peek with
      | some .flowMappingEnd =>
        Read.skip
        return []
      | some .key =>
        let pair ← flowPair fuel depth closesMapping
        return pair :: (← restOfFlowPairs fuel depth false)
      | _ =>
        let key ← node fuel depth .flow
        let value ← Read.addEmpty
        return (key, value) :: (← restOfFlowPairs fuel depth false)

end

/-- Reads the directives before a document: the handles that they name. There may be one version,
whose first number is one, and each handle once. -/
def directives : Nat → Bool → Handles → Read Handles
  | 0, _, _ => Read.fail
  | fuel + 1, version, handles => do
    match ← Read.peek with
    | some (.directive d) =>
      Read.skip
      match d with
      | .version major _ =>
        if version || major != 1 then Read.fail else directives fuel true handles
      | .handle handle meaning =>
        if handles.any (·.1 == handle) then Read.fail
        else directives fuel version ((handle, meaning) :: handles)
      | .reserved => directives fuel version handles
    | _ => return handles

/-- Reads what comes before a document that is started by its mark. -/
def opening (fuel : Nat) : Read Unit := do
  let handles ← directives fuel false []
  match ← Read.peek with
  | some .documentStart =>
    Read.skip
    modify fun r => { r with handles := handles ++ defaultHandles }
  | _ => Read.fail

/-- Goes over the marks after a document. -/
def skipEnds : Nat → Read Unit
  | 0 => Read.fail
  | fuel + 1 => do
    match ← Read.peek with
    | some .documentEnd =>
      Read.skip
      skipEnds fuel
    | _ => return ()

/-- Whether the token shows that a document that is started by its mark has nothing in it. -/
def endsVoid : Option Token → Bool
  | none => true
  | some (.directive _) => true
  | some .documentStart => true
  | some .documentEnd => true
  | _ => false

/-- Reads the root of a document and its marks. A document without directives needs no mark. -/
def root (fuel : Nat) : Read Nat := do
  match ← Read.peek with
  | some (.directive _) | some .documentStart =>
    opening fuel
    if endsVoid (← Read.peek) then Read.addEmpty else node fuel (deepest + 1) .block
  | _ => node fuel (deepest + 1) .block

/-- Reads the only document of a text, if there is any. Another one may begin, but not be there. -/
def only (fuel : Nat) : Read (Option Nat) := do
  match ← Read.peek with
  | none => return none
  | _ =>
    let id ← root fuel
    skipEnds fuel
    match ← Read.peek with
    | none => return some id
    | _ =>
      opening fuel
      Read.fail

/-- The nodes of the document in a text that may end in something not readable, and the number of
its root. A character makes a few tokens at most, and each token takes a few steps. -/
def nodesOf (cs : List Char) (ending : Option Error) : Except Error (Option (Nodes × Nat)) := do
  let start : Reading := ⟨Layout.start cs ending, defaultHandles, #[], []⟩
  let (id?, reading) ← (only (32 * (cs.length + 2))).run start
  return id?.map fun id => (reading.nodes, id)

end SecretVault.Yaml
