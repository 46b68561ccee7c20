import SecretVault.Credentials.Source
import SecretVault.Listing
import SecretVault.Options

/-!
The store in the vault service. It holds one client with the configured limits, and tighter ones for
operations whose deadline leaves less time. Once its credentials are about to expire it resolves
them again, builds a new client and closes the old ones. Errors of the vendor are reported as its
own, and the error of a context that is done comes before them.
-/

namespace SecretVault

/-- Where a store takes its credentials from. -/
inductive Resolver where
  | chain (sources : List Source)
  /-- Something that was given as a resolver and is none. -/
  | unusable

/-- A store in the vault service. Without a client it is closed. -/
structure RemoteStore (T : Type) where
  options : Options T
  resolver : Resolver
  credentials : Option Credentials
  session : Option Nat
  client : Option Client
  /-- Clients with tighter limits than the configured ones. -/
  bounded : List (Limits T × Client)

namespace RemoteStore

variable {T σ : Type} [Seconds T] [Outside T σ] {α : Type}

/-- A store that is not connected yet. -/
def unconnected (options : Options T) (resolver : Resolver) : RemoteStore T where
  options := options
  resolver := resolver
  credentials := none
  session := none
  client := none
  bounded := []

abbrev Op (T σ α : Type) := Action (RemoteStore T × World T σ) α

def current : Op T σ (RemoteStore T) := do
  return (← get).1

def update (f : RemoteStore T → RemoteStore T) : Op T σ Unit :=
  modify fun (store, world) => (f store, world)

/-- An action that does not touch the store. -/
def outward (a : Action (World T σ) α) : Op T σ α :=
  Action.onSecond a

def check (ctx : Context T) : Op T σ Unit :=
  outward (World.check ctx)

/-! ## Sessions and clients -/

def resolve : Resolver → Action (World T σ) (Option Credentials)
  | .chain sources => Source.resolve sources
  | .unusable => Action.fail (.fault .unsupported)

/-- Opens a session with credentials resolved anew, which the store keeps. -/
def newSession : Op T σ Nat := do
  let store ← current
  let credentials ← outward (resolve store.resolver)
  update fun s => { s with credentials := credentials }
  outward (World.openSession store.options.region credentials)

def build (session : Nat) (limits : Limits T) : Op T σ Client := do
  let store ← current
  let endpoint ← Action.ofFault store.options.clientEndpoint
  if limits.attempts < 0 then
    Action.fail (.outside (.badAttempts limits.attempts))
  else
    outward (World.buildClient session endpoint limits)

/-- Opens a session and builds the client with the configured limits. -/
def newClient : Op T σ Client := do
  let session ← newSession
  update fun s => { s with session := some session }
  build session (← current).options.limits

def closeAll : List Client → Op T σ Unit
  | [] => return ()
  | c :: rest => do
    outward (World.closeClient c)
    closeAll rest

/-- Whether the store holds a client whose credentials are to be given up. -/
def isStale (store : RemoteStore T) (clock : Except Fault Instant) : Except Fault Bool :=
  match store.client, store.credentials with
  | some _, some credentials => credentials.expired clock
  | _, _ => .ok false

def held (store : RemoteStore T) : List Client :=
  store.client.toList ++ store.bounded.map (·.2)

/-- The client with the configured limits, built anew if its credentials are to be given up. The
clients it replaces are closed. -/
def freshClient : Op T σ (Option Client) := do
  let (store, world) ← get
  if ← Action.ofFault (store.isStale world.wall) then
    let stale := store.held
    update fun s => { s with bounded := [] }
    let client ← newClient
    update fun s => { s with client := some client }
    closeAll stale
  return (← current).client

/-- The client with the given limits, if the store has built one. -/
def boundedClient? (store : RemoteStore T) (limits : Limits T) : Option Client :=
  (store.bounded.find? fun entry => entry.1.same limits).map (·.2)

/-- A client whose attempts end before the deadline of the context. -/
def clientFor (ctx : Context T) (operation name : String) : Op T σ Client := do
  let _ ← freshClient
  let (store, world) ← get
  let limits? ← Action.ofFault (store.options.limits.for? (ctx.remaining world.moment))
  match store.client with
  | none => Action.fail (.store (.unknown operation name (.text "store is closed") "aws"))
  | some client =>
    match limits?, store.session with
    | some limits, some session =>
      match store.boundedClient? limits with
      | some bounded => return bounded
      | none =>
        let bounded ← build session limits
        update fun s => { s with bounded := s.bounded ++ [(limits, bounded)] }
        return bounded
    | _, _ => return client

/-- Closes the store and its clients. A store without a client is closed already. -/
def close : Op T σ Unit := do
  let store ← current
  update fun s => { s with client := none, bounded := [], session := none }
  match store.client with
  | none => return ()
  | some _ => closeAll store.held

/-! ## Errors -/

/-- The failure that an error of the vendor is reported as. -/
def failureOf (operation name : String) (e : OutsideError) : ErrorKind → Failure
  | .alreadyExists => .store .keyExists
  | .notFound => .store .keyNotFound
  | .accessDenied => .store (.accessDenied name e)
  | .unreachable => .store (.unknown operation name (.error e) "aws")
  | .unknown => .store (.unknown operation name (.error e) "aws")

/-- Reports an error of the vendor, unless the context is done: then its error is reported. -/
def report (ctx : Context T) (operation name : String) (e : OutsideError) : Op T σ α := do
  match ctx.err (← outward World.now) with
  | some err => throw (.standingFor (.context err) e)
  | none =>
    let kind ← Action.ofFault e.kind
    throw (.standingFor (failureOf operation name e kind) e)

/-- Carries out vendor work; if it stops with an error of the vendor, reports that. -/
def reporting (ctx : Context T) (operation name : String) (a : Op T σ α) : Op T σ α := do
  match ← Action.attempt a with
  | .ok x => return x
  | .error raised =>
    match raised.failure with
    | .outside e => if e.isVendor then report ctx operation name e else throw raised
    | _ => throw raised

/-! ## Operations -/

/-- The timeouts of a probe: the configured ones, cut to the time that is left. -/
def probeTimeouts (limits : Limits T) : Option T → T × T
  | none => (limits.connect, limits.read)
  | some left => (Seconds.least limits.connect left, Seconds.least limits.read left)

/-- Sends the probe. A failed request means that the store cannot be reached, unless the context is
done. -/
def probe (ctx : Context T) (url : Value) (timeouts : T × T) : Op T σ Unit := do
  match ← Action.attempt (outward (World.perform (.probe url timeouts.1 timeouts.2))) with
  | .ok () => return ()
  | .error raised =>
    match raised.failure with
    | .outside e =>
      if e.isRequest then
        match ctx.err (← outward World.now) with
        | some err => throw (.standingFor (.context err) e)
        | none => throw (.standingFor (.store (.unreachable (.error e))) e)
      else throw raised
    | _ => throw raised

/-- The time that a probe of the endpoint takes. -/
def status (ctx : Context T) : Op T σ T := do
  check ctx
  let (store, world) ← get
  let timeouts := probeTimeouts store.options.limits (ctx.remaining world.moment)
  let url ← Action.ofFault store.options.endpoint
  probe ctx url timeouts
  let after ← outward World.now
  check ctx
  return after.now - world.moment.now

/-- Stores a value under a name that is not taken. -/
def create (ctx : Context T) (name : String) (value : Bytes) : Op T σ Unit := do
  check ctx
  let key := (← current).options.encryptionKey
  reporting ctx "create" name do
    let client ← clientFor ctx "create" name
    outward (World.perform
      (.create client.id name (Payload.ofBytes value) (if key.isGiven then some key else none)))

def read (ctx : Context T) (name : String) : Op T σ Bytes := do
  check ctx
  let response ← reporting ctx "read" name do
    let client ← clientFor ctx "read" name
    outward (World.perform (.get client.id name))
  let payload ← Action.ofFault (Payload.ofResponse response)
  return payload.toBytes

def delete (ctx : Context T) (name : String) : Op T σ Unit := do
  check ctx
  reporting ctx "delete" name do
    let client ← clientFor ctx "delete" name
    outward (World.perform (.delete client.id name))

/-- What a page lists. -/
def listed (page : Value) : Except Fault (List Value) :=
  match page with
  | .map entries =>
    match (Entries.named? "SecretList" entries).getD (.list []) with
    | .list items => .ok items
    | .map inner => .ok (inner.map fun entry => .scalar entry.1)
    | .str t => .ok (t.map fun p => .str [p])
    | .bytes b => .ok (b.map fun byte => .int byte.toNat)
    | _ => .error .wrongKind
  | _ => .error .unsupported

/-- The name in an entry of a page, if it has one. -/
def nameIn (entry : Value) : Except Fault (Option Value) :=
  match entry with
  | .map fields =>
    let name := (Entries.named? "Name" fields).getD .null
    .ok (if name.isGiven then some name else none)
  | _ => .error .unsupported

def namesOn (page : Value) : Except Fault (List Value) := do
  let found ← (← listed page).mapM nameIn
  return found.filterMap id

/-- Fetches pages one after the other, and stops if the context is done when one arrives. -/
def fetch (ctx : Context T) (client : Nat) : List Nat → Op T σ (List Value)
  | [] => return []
  | index :: rest => do
    let page ← outward (World.perform (.page client index))
    check ctx
    let names ← Action.ofFault (namesOn page)
    return names ++ (← fetch ctx client rest)

/-- A name as text. Other values have no beginning to compare. No name in the vault has a surrogate
in it. -/
def nameText : Value → Except Fault String
  | .str t => (t.toString?).elim (.error .unencodable) .ok
  | .bytes _ => .error .wrongKind
  | _ => .error .unsupported

/-- One page of the names, of all that the vault lists. -/
def list (ctx : Context T) (start : String) (limit : Int) (cursor : String) : Op T σ Page := do
  check ctx
  let found ← reporting ctx "list" start do
    let client ← clientFor ctx "list" start
    let count ← outward (World.perform (.paginator client.id))
    fetch ctx client.id (List.range count)
  let names ← Action.ofFault (found.mapM nameText)
  return Listing.page names start limit cursor

/-! ## Connecting -/

/-- Builds the client of a new store and probes the endpoint. -/
def opening (ctx : Context T) : Op T σ Unit := do
  let client ← newClient
  update fun s => { s with client := some client }
  check ctx
  let _ ← status ctx

/-- Opens a store; if that fails, closes what was opened. -/
def openOrClose (ctx : Context T) : Op T σ Unit := do
  match ← Action.attempt (opening ctx) with
  | .ok () => return ()
  | .error raised =>
    close
    throw raised

def connect (ctx : Context T) (options : Options T) (resolver : Resolver) :
    Action (World T σ) (RemoteStore T) := do
  World.check ctx
  Action.ofOutcome fun world =>
    let (result, store, world) := (openOrClose ctx).outcome (unconnected options resolver, world)
    (result.map fun () => store, world)

def describe (s : RemoteStore T) : Except Fault CodePoints := do
  return "AWS SecretsManager: " ++ (← (← s.options.endpoint).write)

end RemoteStore

end SecretVault
