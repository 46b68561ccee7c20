import SecretVault.Credentials.Profiles
import SecretVault.Dotenv.Expansion
import SecretVault.Host.Expansion
import SecretVault.Yaml.Document

/-!
Readers for rehearsals. They read YAML documents, `.env` files and credentials files as these
formats are documented.
-/

namespace SecretVault

/-- The failure that an error in a document is. -/
def Yaml.Error.failure : Yaml.Error → Failure
  | .malformed => .malformed
  | .fault f => .fault f

/-- The profiles of a credentials file. Variables in its path are replaced. -/
def Profiles.load (machine : Machine) (path : CodePoints) :
    Except Failure (List (CodePoints × Entries)) := do
  let path ← (machine.expandHome (machine.expandVariables path)).mapError .fault
  match machine.files.findAsWritten path with
  | .file content =>
    match (Utf8.decode? content).bind Profiles.read? with
    | some profiles => return profiles
    | none => .error (.outside (.profileFileBroken path))
  | _ => .error (.outside (.profileFileMissing path))

def Readers.rehearsal : Readers where
  yaml number content := (Yaml.load number (.ofBytes content)).mapError Yaml.Error.failure
  dotenv := Dotenv.load
  dotenv_keeps _ path _ _ held := Dotenv.value?_load held path
  profiles := Profiles.load

end SecretVault
