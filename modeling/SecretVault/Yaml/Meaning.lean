import SecretVault.Document
import SecretVault.Yaml.Reading

/-!
What the nodes of a document mean. A node has one meaning, in all places where it stands. The parts
of a sequence or mapping are looked at only after all nodes that lie less deep, so of several nodes
without meaning the first of the least deep ones decides which error is reported. A merge puts the
pairs of other mappings before those of its own mapping, which so win.
-/

namespace SecretVault.Yaml

/-- The meanings found so far. -/
structure Finding where
  /-- The number that tells the document from others. -/
  document : Nat
  nodes : Nodes
  /-- The meaning of each node; that of a collection has no parts before it is looked at. -/
  meanings : Array (Option Meaning)
  /-- The collections whose parts are not looked at yet, the last one first. -/
  waiting : List Nat

/-- A step of finding meanings. -/
abbrev Find (α : Type) := StateT Finding (Except Error) α

namespace Find

/-- Ends the search. -/
def fail {α : Type} : Find α :=
  fun _ => .error .malformed

def node (id : Nat) : Find Node := do
  return (← get).nodes.node id

def pairs (id : Nat) : Find (List (Nat × Nat)) := do
  return (← get).nodes.pairs id

def change (f : Nodes → Nodes) : Find Unit :=
  modify fun w => { w with nodes := f w.nodes }

def note (id : Nat) (m : Meaning) : Find Unit :=
  modify fun w => { w with meanings := w.meanings.setIfInBounds id (some m) }

/-- Notes a collection whose parts are to be looked at later. -/
def postpone (id : Nat) (m : Meaning) : Find Unit := do
  note id m
  modify fun w => { w with waiting := id :: w.waiting }

end Find

/-- The text of a node. A mapping with a value of its own has the text of that. -/
def textOf (nodes : Nodes) : Nat → Nat → Except Error CodePoints
  | 0, _ => .error (.fault .endless)
  | fuel + 1, id =>
    match (nodes.node id).content with
    | .scalar text => .ok text
    | .sequence _ => .error .malformed
    | .mapping pairs =>
      match pairs.find? fun (key, _) => (nodes.node key).tag == .value with
      | some (_, value) => textOf nodes fuel value
      | none => .error .malformed

/-- The scalar that a node means. A date has to be written as a scalar. -/
def scalarAt (document : Nat) (nodes : Nodes) (id : Nat) : Except Error Scalar := do
  let text ← textOf nodes (nodes.size + 1) id
  let node := nodes.node id
  match node.tag, node.content with
  | .timestamp, .mapping _ => .error (.fault .wrongKind)
  | tag, _ => tag.read document id text

/-- Finds what a node means, without the parts of a collection. -/
def find (id : Nat) : Find Unit := do
  let known ← get
  match known.meanings.getD id none with
  | some _ => return ()
  | none =>
    match (known.nodes.node id).tag with
    | .sequence => Find.postpone id (.list [])
    | .mapping => Find.postpone id (.map [])
    | .set => Find.postpone id (.set [])
    | .pairs => Find.postpone id (.pairs [])
    | _ =>
      let s ← (scalarAt known.document known.nodes id : Except Error Scalar)
      Find.note id (.scalar s)

/-! ## Merges -/

/-- Takes away the first pair of a mapping that asks for a merge, and gives its value. -/
def takeMerge (id : Nat) : Find (Option Nat) := do
  let nodes := (← get).nodes
  let pairs := nodes.pairs id
  match pairs.find? nodes.isMerge with
  | none => return none
  | some (_, value) =>
    Find.change fun nodes => nodes.fill id (.mapping (pairs.eraseP nodes.isMerge))
    return some value

/-- Makes text of the keys of a mapping that stand for its own value. -/
def nameValues (id : Nat) : Find Unit := do
  for (key, _) in ← Find.pairs id do
    if (← Find.node key).tag == .value then Find.change fun nodes => nodes.retag key .text

/-- Carries out the merges of a mapping, within a number of merges. Of several mappings in one merge
the first one wins. -/
def merge : Nat → Nat → Find Unit
  | 0, _ => return ()
  | fuel + 1, id => do
    match ← takeMerge id with
    | none => nameValues id
    | some value =>
      let merged (id : Nat) : Find (List (Nat × Nat)) := do
        match (← Find.node id).content with
        | .mapping _ =>
          merge fuel id
          Find.pairs id
        | _ => Find.fail
      let found ← match (← Find.node value).content with
        | .sequence items => (fun all => all.reverse.flatten) <$> items.mapM merged
        | _ => merged value
      merge fuel id
      let own ← Find.pairs id
      Find.change fun nodes => nodes.fill id (.mapping (found ++ own))

/-! ## Collections -/

/-- Writes an entry. An equal key keeps its place and its spelling; a new key comes last. -/
def writeEntry (entries : List (Scalar × Nat)) (key : Scalar) (value : Nat) :
    List (Scalar × Nat) :=
  match entries with
  | [] => [(key, value)]
  | (k, v) :: rest =>
    if k.sameKey key then (k, value) :: rest else (k, v) :: writeEntry rest key value

/-- Finds what a node means as a key: collections are no keys. -/
def findKey (id : Nat) : Find Scalar := do
  find id
  match (← get).meanings.getD id none with
  | some (.scalar s) => return s
  | _ => Find.fail

def findItems (id : Nat) : Find (List Nat) := do
  match (← Find.node id).content with
  | .sequence items =>
    items.forM find
    return items
  | _ => Find.fail

/-- Finds the entries of a mapping after its merges. -/
def findEntries (id : Nat) : Find (List (Scalar × Nat)) := do
  match (← Find.node id).content with
  | .mapping _ =>
    merge ((← get).nodes.merges + 1) id
    (← Find.pairs id).foldlM (fun entries (key, value) => do
      let k ← findKey key
      find value
      return writeEntry entries k value) []
  | _ => Find.fail

/-- Finds the pair that a mapping of one entry is. -/
def findPair (id : Nat) : Find (Nat × Nat) := do
  match ← Find.pairs id with
  | [(key, value)] =>
    find key
    find value
    return (key, value)
  | _ => Find.fail

/-- Finds the pairs of a sequence of mappings of one entry each. -/
def findPairs (id : Nat) : Find (List (Nat × Nat)) := do
  match (← Find.node id).content with
  | .sequence items => items.mapM findPair
  | _ => Find.fail

/-- Looks at the parts of a collection. -/
def findParts (id : Nat) : Find Unit := do
  match (← get).meanings.getD id none with
  | some (.list _) => Find.note id (.list (← findItems id))
  | some (.map _) => Find.note id (.map (← findEntries id))
  | some (.set _) => Find.note id (.set ((← findEntries id).map (·.1)))
  | some (.pairs _) => Find.note id (.pairs (← findPairs id))
  | _ => return ()

/-- Looks at the parts of all collections, those less deep first, within a depth. -/
def findAll : Nat → Find Unit
  | 0 => return ()
  | fuel + 1 => do
    let waiting := (← get).waiting
    if waiting.isEmpty then return ()
    else
      modify fun w => { w with waiting := [] }
      waiting.reverse.forM findParts
      findAll fuel

/-- The meanings of all nodes of a document, by their numbers. -/
def meaningsOf (document : Nat) (nodes : Nodes) (root : Nat) :
    Except Error (Array (Option Meaning)) := do
  let work : Find Unit := do
    find root
    findAll (nodes.size + 1)
  let ((), found) ← work.run ⟨document, nodes, Array.replicate nodes.size none, []⟩
  return found.meanings

end SecretVault.Yaml
