import SecretVault.Store.Memory
import SecretVault.Store.Remote

/-!
Key stores of either kind, and what every kind offers.
-/

namespace SecretVault

/-- A key store. The label names the kind of store that it was registered as. -/
inductive KeyStore (T : Type) where
  | memory (label : String) (store : MemoryStore)
  | remote (label : String) (store : RemoteStore T)

namespace KeyStore

variable {T σ : Type} [Seconds T] [Outside T σ] {α : Type}

abbrev Op (T σ α : Type) := Action (KeyStore T × World T σ) α

/-- Carries out an operation with what each kind of store has for it. -/
def dispatch (memory : MemoryStore.Op T σ α) (remote : RemoteStore.Op T σ α) : Op T σ α :=
  Action.ofOutcome fun (store, world) =>
    match store with
    | .memory label s =>
      let (result, s, world) := memory.outcome (s, world)
      (result, .memory label s, world)
    | .remote label s =>
      let (result, s, world) := remote.outcome (s, world)
      (result, .remote label s, world)

/-- The time that a look at the store takes. -/
def status (ctx : Context T) : Op T σ T :=
  dispatch (MemoryStore.status ctx) (RemoteStore.status ctx)

/-- Stores a value under a name that is not taken. -/
def create (ctx : Context T) (name : String) (value : Bytes) : Op T σ Unit :=
  dispatch (MemoryStore.create ctx name value) (RemoteStore.create ctx name value)

/-- The same as creating: no entry is ever overwritten. -/
def put (ctx : Context T) (name : String) (value : Bytes) : Op T σ Unit :=
  create ctx name value

def read (ctx : Context T) (name : String) : Op T σ Bytes :=
  dispatch (MemoryStore.read ctx name) (RemoteStore.read ctx name)

def delete (ctx : Context T) (name : String) : Op T σ Unit :=
  dispatch (MemoryStore.delete ctx name) (RemoteStore.delete ctx name)

def list (ctx : Context T) (start : String) (limit : Int) (cursor : String) : Op T σ Page :=
  dispatch (MemoryStore.list ctx start limit cursor) (RemoteStore.list ctx start limit cursor)

/-- Releases what the store holds. -/
def close : Op T σ Unit :=
  dispatch (pure ()) RemoteStore.close

/-- Reads a value and closes the store, whether or not reading succeeds. -/
def readAndClose (ctx : Context T) (name : String) : Op T σ Bytes := do
  let result ← Action.attempt (read ctx name)
  close
  Action.settle result

/-- The pages of a walk through the names, from a cursor on and at most so many. -/
def walk (ctx : Context T) (start : String) (limit : Int) : Nat → String → Op T σ (List Page)
  | 0, _ => return []
  | more + 1, cursor => do
    let page ← list ctx start limit cursor
    if page.cursor == "" then return [page]
    else return page :: (← walk ctx start limit more page.cursor)

/-- The client that a store in the vault service uses; a store in memory has none. -/
def client : Op T σ (Option Client) :=
  dispatch (Action.fail (.fault .unsupported)) RemoteStore.freshClient

/-- The outcome of a look at the store as text: the time in milliseconds, to one place. -/
def describeMilliseconds (milliseconds : Float) : String :=
  "KeyStoreState(latency=" ++ Decimal.fixed 1 milliseconds ++ "ms)"

/-- The outcome of a look at the store that took a time. -/
def describeLatency (seconds : Float) : String :=
  describeMilliseconds (seconds * 1000.0)

/-- The same for a time that is any value. A whole number is multiplied before it becomes a float.
-/
def describeLatencyValue (seconds : Value) : Except Fault String := do
  match seconds with
  | .int n => return describeMilliseconds (← Value.floatOfInt (n * 1000))
  | .str _ => .error .badValue
  | v => return describeLatency (← v.duration)

def describe : KeyStore T → Except Fault CodePoints
  | .memory _ _ => .ok "In-Memory"
  | .remote _ s => s.describe

end KeyStore

end SecretVault
