import SecretVault.Calendar
import SecretVault.Text.CodePoint

/-!
Values of configuration documents and service answers: scalars, lists, and mappings that keep the
order of their entries. Scalars serve as keys. Two keys are the same if they have the same `Key`,
and numbers and truth values share one line of numbers, so `1`, `1.0` and `true` are one key.
-/

namespace SecretVault

/-- A value without parts. -/
inductive Scalar where
  | null
  | bool (b : Bool)
  | int (n : Int)
  | float (x : Float)
  /-- The result of a computation that is not a number. It equals no other one, so each has a mark
  of its own. -/
  | nan (document node : Nat)
  | str (t : CodePoints)
  | bytes (b : Bytes)
  | timestamp (t : Timestamp)
  | date (d : Date)
  deriving DecidableEq

/-- A value: a scalar, a list, a mapping in the order in which its keys were first written, a set,
or a pair. -/
inductive Value where
  | scalar (s : Scalar)
  | list (items : List Value)
  | map (entries : List (Scalar × Value))
  | set (members : List Scalar)
  | pair (first second : Value)
  deriving Inhabited

namespace Value

@[match_pattern, reducible] def null : Value := .scalar .null

@[match_pattern, reducible] def bool (b : Bool) : Value := .scalar (.bool b)

@[match_pattern, reducible] def int (n : Int) : Value := .scalar (.int n)

@[match_pattern, reducible] def float (x : Float) : Value := .scalar (.float x)

@[match_pattern, reducible] def str (t : CodePoints) : Value := .scalar (.str t)

@[match_pattern, reducible] def bytes (b : Bytes) : Value := .scalar (.bytes b)

end Value

/-- What a scalar is as a key. -/
inductive Key where
  | null
  | number (q : Rat)
  | infinite (negative : Bool)
  | nan (mark : Option (Nat × Nat))
  | str (t : CodePoints)
  | bytes (b : Bytes)
  | timestamp (i : Instant) (zoned : Bool)
  | date (d : Date)
  deriving DecidableEq

/-- Numbers and truth values are one line of numbers, and timestamps with a zone one line of
instants. -/
def Scalar.key : Scalar → Key
  | .null => .null
  | .bool b => .number (if b then 1 else 0)
  | .int n => .number n
  | .float x =>
    match Decimal.exact x, Decimal.toRat? x with
    | .infinite negative, _ => .infinite negative
    | _, some q => .number q
    | _, none => .nan none
  | .nan document node => .nan (some (document, node))
  | .str t => .str t
  | .bytes b => .bytes b
  | .timestamp t => .timestamp (Calendar.instantOf t) t.ahead.isSome
  | .date d => .date d

def Scalar.sameKey (a b : Scalar) : Bool :=
  a.key == b.key

@[simp] theorem Scalar.sameKey_iff {a b : Scalar} : a.sameKey b = true ↔ a.key = b.key := by
  simp [Scalar.sameKey]

abbrev Entries := List (Scalar × Value)

namespace Entries

def find? (key : Scalar) : Entries → Option Value
  | [] => none
  | (k, v) :: rest => if k.sameKey key then some v else find? key rest

def named? (name : String) (entries : Entries) : Option Value :=
  find? (.str name) entries

/-- Replaces the value under a key by what the function makes of it. An equal key keeps its place
and its spelling; a new key comes last. -/
def alter (key : Scalar) (f : Option Value → Value) : Entries → Entries
  | [] => [(key, f none)]
  | (k, v) :: rest => if k.sameKey key then (k, f (some v)) :: rest else (k, v) :: alter key f rest

def put (key : Scalar) (value : Value) (entries : Entries) : Entries :=
  entries.alter key fun _ => value

/-- The mapping that results from writing entries one after the other. -/
def ofList (pairs : List (Scalar × Value)) : Entries :=
  pairs.foldl (fun entries (key, value) => entries.put key value) []

def keys (entries : Entries) : List Key :=
  entries.map fun entry => entry.1.key

theorem find?_alter (key other : Scalar) (f : Option Value → Value) (entries : Entries) :
    find? other (entries.alter key f) =
      if key.key = other.key then some (f (find? key entries)) else find? other entries := by
  induction entries with
  | nil => by_cases h : key.key = other.key <;> simp [alter, find?, h]
  | cons entry rest ih =>
    obtain ⟨k, v⟩ := entry
    by_cases hk : k.key = key.key
    · by_cases ho : key.key = other.key <;> simp [alter, find?, hk, ho]
    · by_cases ho : k.key = other.key
      · have hne : key.key ≠ other.key := fun h => hk (ho.trans h.symm)
        simp [alter, find?, ho, hne, Ne.symm hne]
      · by_cases hko : key.key = other.key <;> simp [alter, find?, hk, ho, ih, hko]

end Entries

/-- Whether a scalar counts as given: not null, not false, not zero, not empty. -/
def Scalar.isGiven : Scalar → Bool
  | .null => false
  | .bool b => b
  | .int n => n ≠ 0
  | .float x => x != 0.0
  | .nan _ _ => true
  | .str t => !t.isEmpty
  | .bytes b => !b.isEmpty
  | .timestamp _ => true
  | .date _ => true

namespace Value

/-- Whether a value counts as given: empty lists, mappings and sets do not. -/
def isGiven : Value → Bool
  | .scalar s => s.isGiven
  | .list items => !items.isEmpty
  | .map entries => !entries.isEmpty
  | .set members => !members.isEmpty
  | .pair _ _ => true

/-- The value if it counts as given, else the other one. -/
def orElse (v other : Value) : Value :=
  if v.isGiven then v else other

def isNull : Value → Bool
  | .scalar .null => true
  | _ => false

/-- The value's kind, as messages name it. -/
def kindName : Value → String
  | .scalar .null => "NoneType"
  | .scalar (.bool _) => "bool"
  | .scalar (.int _) => "int"
  | .scalar (.float _) => "float"
  | .scalar (.nan _ _) => "float"
  | .scalar (.str _) => "str"
  | .scalar (.bytes _) => "bytes"
  | .scalar (.timestamp _) => "datetime"
  | .scalar (.date _) => "date"
  | .list _ => "list"
  | .map _ => "dict"
  | .set _ => "set"
  | .pair _ _ => "tuple"

end Value

end SecretVault
