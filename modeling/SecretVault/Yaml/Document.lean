import SecretVault.Yaml.Meaning
import SecretVault.Yaml.Source

/-!
Reading a document: from the bytes of a file to the meanings of its nodes.
-/

namespace SecretVault.Yaml

/-- The document in a source; one without a document means nothing. The number tells the document
from others. -/
def load (number : Nat) (source : Source) : Except Error Document := do
  match ← nodesOf source.text source.ending with
  | none => return .ofScalar .null
  | some (nodes, root) => return ⟨← meaningsOf number nodes root, root⟩

end SecretVault.Yaml
