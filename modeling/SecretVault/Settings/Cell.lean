import SecretVault.World.Basic

/-!
The settings in use. A cell holds at most one settings object; everyone who asks before the next
reset gets that object. Loading reads a file, lays the file of an environment over it and resolves
the placeholders; only a load that succeeds changes what the object holds.
-/

namespace SecretVault

namespace Settings

/-- A settings object and what it holds. -/
structure Object where
  id : Nat
  data : Entries

/-- The cell: all objects so far, and the number of the one in it. -/
structure Cell where
  objects : List Object
  inUse : Option Nat

namespace Cell

def empty : Cell :=
  ⟨[], none⟩

def data (c : Cell) (id : Nat) : Entries :=
  ((c.objects.find? (·.id == id)).map (·.data)).getD []

/-- The object in the cell, made if there is none. A new object holds nothing. -/
def obtain (c : Cell) : Nat × Cell :=
  match c.inUse with
  | some id => (id, c)
  | none =>
    let id := c.objects.length
    (id, ⟨⟨id, []⟩ :: c.objects, some id⟩)

/-- Changes what an object holds. -/
def store (c : Cell) (id : Nat) (data : Entries) : Cell :=
  { c with objects := c.objects.map fun o => if o.id == id then { o with data := data } else o }

/-- Empties the cell. Its object stays with those who have it. -/
def reset (c : Cell) : Cell :=
  { c with inUse := none }

end Cell

/-- The document in the bytes of a file. An empty one is an empty mapping, and so is everything else
that does not count as given. The number tells the document from others. -/
def document (host : Host) (number : Nat) (path : Path) (content : Bytes) :
    Except Failure Document := do
  let document ← host.readers.yaml number content
  match document.outline.orElse (.map []) with
  | .map [] => return .empty
  | .map _ => return document
  | other => .error (.settings (.notMapping path.text other.kindName))

def readFile (host : Host) (number : Nat) (path : Path) : Except Failure (Option Document) :=
  match host.files.find path with
  | .file content => (document host number path content).map some
  | .folder => .error (.fault .isDirectory)
  | .missing => .ok none
  | .tooLong => .error (.fault .unusableName)

/-- Where the file of an environment lies. -/
def environmentPath (path : Path) (env : CodePoints) : Path :=
  (path.parent.join (.ofText "environments")).join (.ofText (env ++ ".yaml"))

/-- The settings in files, placeholders not resolved. -/
inductive Raw where
  | entries (data : Entries)
  /-- Settings that go on without end, and the values that come before that place. -/
  | endless (before : List Value)

def Raw.ofUnfolded : Unfolded → Raw
  | .ok (.map data) => .entries data
  | .ok _ => .entries []
  | .error before => .endless before

/-- The settings of two documents, one over the other. -/
def overlaid (lower upper : Document) : Except Failure Raw :=
  match lower.value, upper.value with
  | .ok (.map below), .ok (.map above) => .ok (.entries (Entries.overlay below above))
  | _, _ => (Draft.over? lower upper).elim (.error (.fault .endless)) (.ok ∘ Raw.ofUnfolded)

/-- The settings in the main file with those of the environment over them. -/
def raw (host : Host) (path : CodePoints) (env : Option CodePoints) : Except Failure Raw := do
  let main := Path.ofText path
  match ← readFile host 0 main with
  | none => .error (.fileMissing path)
  | some lower =>
    match env with
    | none | some [] => return .ofUnfolded lower.value
    | some env =>
      match ← readFile host 1 (environmentPath main env) with
      | none => return .ofUnfolded lower.value
      | some upper => overlaid lower upper

/-- The settings with their placeholders resolved. What goes on without end is noticed when
resolving comes there. -/
def Raw.resolve (env : Environment) : Raw → Except Failure Entries
  | .entries data => resolveEntries env "" data
  | .endless before => do
    let _ ← resolveItems env "" before
    .error (.fault .endless)

variable {T σ : Type}

/-- Resolves the placeholders of the raw settings and puts the result into the cell's object. -/
def fill (data : Raw) : Action (Cell × World T σ) Nat := do
  let (cell, world) ← get
  let (id, cell) := cell.obtain
  set (cell, world)
  let data ← Action.ofExcept (data.resolve world.host.environment)
  modify fun (cell, world) => (cell.store id data, world)
  return id

/-- Loads the settings of a file and an environment. -/
def load (path : CodePoints) (env : Option CodePoints) : Action (Cell × World T σ) Nat := do
  let (_, world) ← get
  let data ← Action.ofExcept (raw world.host path env)
  Action.onSecond (World.loadDotenv fun host => host.loadDotenv host.dotenvPath)
  fill data

def splitPoint : CodePoints → List CodePoints
  | [] => [[]]
  | p :: s =>
    match splitPoint s with
    | [] => [[p]]
    | part :: parts => if p == .ofChar '.' then [] :: part :: parts else (p :: part) :: parts

/-- The value under a key with points in it, each part naming an entry of the mapping before. -/
def lookup (data : Entries) (key : CodePoints) : Option Value :=
  (Value.map data).at? ((splitPoint key).map .str)

/-- The value under a key, or another one. -/
def getOr (data : Entries) (key : CodePoints) (fallback : Value) : Value :=
  (lookup data key).getD fallback

/-- A whole section, empty if it is not there. -/
def group (data : Entries) (name : CodePoints) : Value :=
  getOr data name (.map [])

end Settings

end SecretVault
