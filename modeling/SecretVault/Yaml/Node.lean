import SecretVault.Yaml.Tag

/-!
Nodes: the parts of a document. An alias stands for a node that is there already, so a node may have
several places, and may even be a part of itself. Nodes are therefore numbered, and name their parts
by number.
-/

namespace SecretVault.Yaml

/-- What a node consists of. -/
inductive Content where
  | scalar (text : CodePoints)
  | sequence (items : List Nat)
  | mapping (pairs : List (Nat × Nat))

structure Node where
  tag : Tag
  content : Content

/-- The nodes of a document, each under its number. -/
abbrev Nodes := Array Node

namespace Node

def empty : Node :=
  ⟨.null, .scalar []⟩

end Node

namespace Nodes

def node (nodes : Nodes) (id : Nat) : Node :=
  nodes.getD id Node.empty

/-- The pairs of a mapping; other nodes have none. -/
def pairs (nodes : Nodes) (id : Nat) : List (Nat × Nat) :=
  match (nodes.node id).content with
  | .mapping pairs => pairs
  | _ => []

def put (nodes : Nodes) (id : Nat) (node : Node) : Nodes :=
  nodes.setIfInBounds id node

def fill (nodes : Nodes) (id : Nat) (content : Content) : Nodes :=
  nodes.put id { nodes.node id with content := content }

def retag (nodes : Nodes) (id : Nat) (tag : Tag) : Nodes :=
  nodes.put id { nodes.node id with tag := tag }

def isMerge (nodes : Nodes) (pair : Nat × Nat) : Bool :=
  (nodes.node pair.1).tag == .merge

/-- The number of pairs that ask for a merge. -/
def merges (nodes : Nodes) : Nat :=
  nodes.foldl (fun n node => match node.content with
    | .mapping pairs => n + pairs.countP nodes.isMerge
    | _ => n) 0

end Nodes

end SecretVault.Yaml
