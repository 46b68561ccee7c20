import SecretVault.Settings.Cell
import SecretVault.Store.Basic

/-!
Providers of key stores by name, and connecting a store as a section of the configuration says.
-/

namespace SecretVault

/-- What kind of store a provider connects. -/
inductive StoreKind where
  | memory
  | remote
  deriving DecidableEq

/-- A provider: the kind of store, and the label of the stores it connects. -/
structure Provider where
  kind : StoreKind
  label : String

/-- Providers by name, in the order in which the names were registered first. -/
abbrev Registry := List (String × Provider)

namespace Registry

def standard : Registry :=
  [("memory", ⟨.memory, "MemoryKeyStore"⟩), ("aws", ⟨.remote, "SecretsManagerStore"⟩)]

/-- Registers a provider. One of the same name is replaced where it stands. -/
def register (r : Registry) (name : String) (p : Provider) : Registry :=
  if r.any (·.1 == name) then r.map fun entry => if entry.1 == name then (name, p) else entry
  else r ++ [(name, p)]

def names (r : Registry) : List String :=
  r.map (·.1)

def find? (r : Registry) (name : CodePoints) : Option Provider :=
  (List.find? (fun entry => CodePoints.ofString entry.1 == name) r).map (·.2)

/-- The failure to find a provider, which names it if it can be written. -/
def unknown (r : Registry) (provider : Value) : Failure :=
  if provider.isWritable then .unknownProvider provider r.names else .fault .badValue

end Registry

namespace KeyStore

variable {σ : Type} [Outside Float σ]

/-- The options in a section, each under a name. Those that are handed over otherwise must not be in
it. -/
def namedOptions (reserved : List CodePoints) : Value → Except Fault Entries
  | .map entries =>
    let isPlain (key : Scalar) : Bool := match key with
      | .str t => !reserved.contains t
      | _ => false
    if entries.all fun entry => isPlain entry.1 then .ok entries else .error .wrongKind
  | _ => .error .wrongKind

/-- The resolver that options name: the usual chain if they name none. -/
def resolverIn (options : Entries) (login : Credentials) : Resolver :=
  if ((options.named? "resolver").getD .null).isGiven then .unusable
  else .chain (Source.usual login)

/-- Connects a store in the vault service from a section. A configuration object cannot be given as
a value. -/
def connectRemote (ctx : Context Float) (options : Entries) :
    Action (World Float σ) (RemoteStore Float) := do
  if ((options.named? "config").getD .null).isNull then
    let o ← Action.ofExcept (Options.ofSection (.map options))
    RemoteStore.connect ctx o (resolverIn options o.login)
  else
    World.check ctx
    Action.fail (.fault .unsupported)

def connect (ctx : Context Float) (p : Provider) (options : Entries) :
    Action (World Float σ) (KeyStore Float) :=
  match p.kind with
  | .memory => do return .memory p.label (← MemoryStore.connect ctx)
  | .remote => do return .remote p.label (← connectRemote ctx options)

/-- Connects a store of the provider with the given name. -/
def create? (ctx : Context Float) (r : Registry) (provider options : Value) :
    Action (World Float σ) (KeyStore Float) := do
  let options ← Action.ofFault (namedOptions ["ctx", "provider", "cls"] options)
  match provider with
  | .str name =>
    match r.find? name with
    | some p => connect ctx p options
    | none => Action.fail (r.unknown provider)
  | .scalar _ => Action.fail (r.unknown provider)
  | _ => Action.fail (.fault .wrongKind)

/-- Connects the store that a configuration describes: the provider, and under its name its
section. -/
def ofConfiguration (ctx : Context Float) (r : Registry) (configuration : Value) :
    Action (World Float σ) (KeyStore Float) := do
  match configuration with
  | .map entries =>
    let provider := (Entries.named? "provider" entries).getD (.str "aws")
    match provider with
    | .scalar key =>
      let options := ((Entries.find? key entries).getD .null).orElse (.map [])
      create? ctx r provider options
    | _ => Action.fail (.fault .wrongKind)
  | _ => Action.fail (.fault .unsupported)

/-- Connects the store that a configuration file describes in its section on key stores. -/
def ofFile (ctx : Context Float) (r : Registry) (path : CodePoints) (env : Option CodePoints) :
    Action (Settings.Cell × World Float σ) (KeyStore Float) := do
  let id ← Settings.load path env
  let (cell, _) ← get
  let found := Settings.group (cell.data id) "keystore"
  match found with
  | .map (_ :: _) => Action.onSecond (ofConfiguration ctx r found)
  | _ => Action.fail (.settings (.noStoreSection path))

end KeyStore

end SecretVault
