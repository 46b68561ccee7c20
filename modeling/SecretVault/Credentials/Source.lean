import SecretVault.Host.Expansion
import SecretVault.World.Basic

/-!
Credential sources, and the chain that asks them. The first source with credentials wins; one that
fails or has none is passed over, and later ones are not asked.
-/

namespace SecretVault

/-- Where the credentials of a machine's role are asked for: the metadata service, or an answer
known beforehand. -/
inductive Metadata where
  | service
  | known (answer : Except OutsideError Value)

/-- A place to look for credentials. -/
inductive Source where
  | login (credentials : Credentials)
  /-- Environment variables whose names begin with `start`, after loading a `.env` file. -/
  | environment (start : CodePoints) (file : Option CodePoints)
  | profile (path profile : Option CodePoints)
  /-- The role of the machine. -/
  | role (metadata : Metadata)
  | foreign (name : String) (slot : Nat)

namespace Source

variable {T σ : Type} [Seconds T] [Outside T σ]

def name : Source → String
  | .login _ => "static"
  | .environment _ _ => "env"
  | .profile _ _ => "shared-file"
  | .role _ => "instance-role"
  | .foreign name _ => name

/-- A text that is there and not empty, or the other one. -/
def chosen (given : Option CodePoints) (other : CodePoints) : CodePoints :=
  match given with
  | some s => if s.isEmpty then other else s
  | none => other

/-- The credentials of the configuration, unless they are empty. -/
def ofLogin (c : Credentials) : Option Credentials :=
  if c.isEmpty then none
  else some { c with source := "static", expiresAt := none }

/-- The credentials in the environment, if both keys are given. -/
def ofVariables (host : Host) (start : CodePoints) : Except Fault (Option Credentials) := do
  let get (key : String) : Except Fault CodePoints :=
    return (← host.environment.read (start ++ key)).getD ""
  let access ← get "AWS_ACCESS_KEY_ID"
  let secret ← get "AWS_SECRET_ACCESS_KEY"
  if access.isEmpty || secret.isEmpty then return none
  else return some ⟨.str access, .str secret, .str (← get "AWS_SESSION_TOKEN"), "env", none⟩

/-- The `.env` file of a source, that of the working folder if none is named. -/
def dotenvPath (host : Host) : Option CodePoints → Path
  | none => host.dotenvPath
  | some file => if file.isEmpty then host.dotenvPath else .ofText file

/-- Loads the `.env` file and takes the credentials in the environment. -/
def loadVariables (start : CodePoints) (file : Option CodePoints) :
    Action (World T σ) (Option Credentials) := do
  World.loadDotenv fun host => host.loadDotenv (dotenvPath host file)
  Action.ofFault (ofVariables (← get).host start)

/-- The credentials of a profile, if both keys are given. -/
def ofProfile (profile : CodePoints) (options : Entries) : Option Credentials :=
  let get (key : String) : Value := (options.named? key).getD (.str "")
  let access := get "aws_access_key_id"
  let secret := get "aws_secret_access_key"
  if access.isGiven && secret.isGiven then
    some ⟨access, secret, get "aws_session_token", "shared-file:" ++ profile, none⟩
  else none

/-- The credentials that the profile file gives on a host. -/
def inProfiles (host : Host) (path profile : Option CodePoints) :
    Except Failure (Option Credentials) := do
  let path ← (host.expandHome
    (chosen path (host.valueOr "AWS_SHARED_CREDENTIALS_FILE" "~/.aws/credentials"))).mapError .fault
  let profile := chosen profile (host.valueOr "AWS_PROFILE" "default")
  match host.files.findAsWritten path with
  | .file _ =>
    let profiles ← host.readers.profiles host.toMachine path
    return (profiles.find? (·.1 == profile)).bind fun (_, options) => ofProfile profile options
  | _ => return none

/-- The credentials in an answer of the metadata service. The time of expiry is read before the keys
are looked at. -/
def ofMetadata (answer : Value) : Except Fault (Option Credentials) :=
  if answer.isGiven then
    match answer with
    | .map entries => do
      let expiry := (Entries.named? "expiry_time" entries).getD .null
      let expiresAt ←
        if expiry.isGiven then
          match expiry with
          | .str t => (Calendar.universal? t.shown).elim (.error .badValue) (.ok ∘ some)
          | _ => .error .wrongKind
        else pure none
      let access ← (Entries.named? "access_key" entries).elim (.error .missingField) .ok
      let secret ← (Entries.named? "secret_key" entries).elim (.error .missingField) .ok
      let token := ((Entries.named? "token" entries).getD .null).orElse (.str "")
      let role := (Entries.named? "role_name" entries).getD (.str "")
      return some ⟨access, secret, token, "instance-role:" ++ role.text, expiresAt⟩
    | _ => .error .unsupported
  else .ok none

def fetch : Metadata → Action (World T σ) Value
  | .service => World.perform .metadata
  | .known answer => Action.ofExcept (answer.mapError .outside)

def load : Source → Action (World T σ) (Option Credentials)
  | .login c => return ofLogin c
  | .environment start file => loadVariables start file
  | .profile path selected => do
    Action.ofExcept (inProfiles (← get).host path selected)
  | .role metadata => do
    Action.ofFault (ofMetadata (← fetch metadata))
  | .foreign name slot => World.perform (.load name slot)

/-- The first credentials that are not empty. A source that fails is passed over. -/
def resolve : List Source → Action (World T σ) (Option Credentials)
  | [] => return none
  | source :: rest => do
    match ← Action.attempt source.load with
    | .ok (some c) => if c.isEmpty then resolve rest else return some c
    | _ => resolve rest

/-- The usual chain: the configuration, the environment, the profile file, the machine's role. -/
def usual (login : Credentials) : List Source :=
  [.login login, .environment "" none, .profile none none, .role .service]

end Source

end SecretVault
