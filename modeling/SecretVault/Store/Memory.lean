import SecretVault.Listing
import SecretVault.World.Basic

/-!
The store in memory: a finite map from names to byte strings. Every operation first checks its
context; none makes a call to the outside.
-/

namespace SecretVault

/-- The entries of a store in memory, each name at most once. -/
structure MemoryStore where
  entries : List (String × Bytes)

namespace MemoryStore

variable {T σ : Type} [Seconds T]

def empty : MemoryStore :=
  ⟨[]⟩

def find? (s : MemoryStore) (name : String) : Option Bytes :=
  (s.entries.find? (·.1 == name)).map (·.2)

def names (s : MemoryStore) : List String :=
  s.entries.map (·.1)

def insert (s : MemoryStore) (name : String) (value : Bytes) : MemoryStore :=
  ⟨s.entries ++ [(name, value)]⟩

def erase (s : MemoryStore) (name : String) : MemoryStore :=
  ⟨s.entries.filter (·.1 != name)⟩

abbrev Op (T σ α : Type) := Action (MemoryStore × World T σ) α

def check (ctx : Context T) : Op T σ Unit :=
  Action.onSecond (World.check ctx)

def connect (ctx : Context T) : Action (World T σ) MemoryStore := do
  World.check ctx
  return empty

/-- The time that a look at the store takes, which is none. -/
def status (ctx : Context T) : Op T σ T := do
  check ctx
  return Seconds.ofInt 0

/-- Stores a value under a name that is not taken. -/
def create (ctx : Context T) (name : String) (value : Bytes) : Op T σ Unit := do
  check ctx
  let (store, world) ← get
  match store.find? name with
  | some _ => Action.fail (.store .keyExists)
  | none => set (store.insert name value, world)

def read (ctx : Context T) (name : String) : Op T σ Bytes := do
  check ctx
  let (store, _) ← get
  match store.find? name with
  | some value => return value
  | none => Action.fail (.store .keyNotFound)

def delete (ctx : Context T) (name : String) : Op T σ Unit := do
  check ctx
  let (store, world) ← get
  match store.find? name with
  | some _ => set (store.erase name, world)
  | none => Action.fail (.store .keyNotFound)

def list (ctx : Context T) (start : String) (limit : Int) (cursor : String) : Op T σ Page := do
  check ctx
  let (store, _) ← get
  return Listing.page store.names start limit cursor

end MemoryStore

end SecretVault
