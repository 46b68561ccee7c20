import SecretVault.Document
import SecretVault.Host.Files
import SecretVault.Placeholder

/-!
The host that the library runs on: its environment variables, accounts and files, and the readers of
file formats that are installed there. What the readers make of a file is theirs to say. Of them it
is only known that loading a `.env` file changes nothing but variables, and none that is set.
-/

namespace SecretVault

/-- Environment variables by name, the one that counts first. -/
abbrev Variables := List (CodePoints × CodePoints)

/-- What a variable holds. Two names are the same if the host knows them by the same bytes. -/
def Variables.value? (values : Variables) (name : CodePoints) : Option CodePoints :=
  name.encode?.bind fun key =>
    (List.find? (fun entry => entry.1.encode? == some key) values).map (·.2)

/-- What the readers get to see. -/
structure Machine where
  values : Variables
  files : FileTree
  /-- The accounts and their home folders. -/
  accounts : List (CodePoints × CodePoints)
  /-- The home folder of the account in use, if that is known. -/
  home : Option CodePoints

namespace Machine

def value? (m : Machine) (name : CodePoints) : Option CodePoints :=
  m.values.value? name

/-- The environment as placeholders see it. -/
def environment (m : Machine) : Environment :=
  m.value?

def valueOr (m : Machine) (name other : CodePoints) : CodePoints :=
  (m.value? name).getD other

/-- The path of the working folder. -/
def workingPath (m : Machine) : Path :=
  ⟨"/", m.files.working⟩

/-- The `.env` file of the working folder. -/
def dotenvPath (m : Machine) : Path :=
  m.workingPath.join (.ofText ".env")

end Machine

/-- Readers of file formats. -/
structure Readers where
  /-- The document in the bytes of a configuration file. The number tells it from others. -/
  yaml : Nat → Bytes → Except Failure Document
  /-- The variables after loading the `.env` file of a path, and whether loading went well. -/
  dotenv : Machine → Path → Variables × Except Failure Unit
  /-- No variable that is set is overwritten. -/
  dotenv_keeps : ∀ machine path name value, machine.value? name = some value →
    (dotenv machine path).1.value? name = some value
  /-- The profiles in the credentials file of a path, and the options of each. -/
  profiles : Machine → CodePoints → Except Failure (List (CodePoints × Entries))

structure Host extends Machine where
  readers : Readers

/-- Readers that find nothing in any file. -/
def Readers.idle : Readers where
  yaml _ _ := .ok .empty
  dotenv machine _ := (machine.values, .ok ())
  dotenv_keeps _ _ _ _ h := h
  profiles _ _ := .ok []

namespace Host

def empty : Host where
  values := []
  files := ⟨[], [], []⟩
  accounts := []
  home := none
  readers := .idle

/-- Loads the `.env` file of a path, if something lies there. -/
def loadDotenv (host : Host) (path : Path) : Host × Except Failure Unit :=
  match host.files.find path with
  | .missing => (host, .ok ())
  | .tooLong => (host, .error (.fault .unusableName))
  | _ =>
    let (values, result) := host.readers.dotenv host.toMachine path
    ({ host with values := values }, result)

end Host

end SecretVault
