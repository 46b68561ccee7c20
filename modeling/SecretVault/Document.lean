import SecretVault.Value.Overlay

/-!
Documents as readers hand them over: nodes with numbers, which name their parts by number, so that a
node may have several places and may even be a part of itself. A document whose parts lie in one
another without end has no value that could be written down; it is known by the values that come
before the place where it goes on without end, and two of them can still be overlaid, since an upper
value may replace that place.
-/

namespace SecretVault

/-- What a node means: a scalar, or a collection whose parts are the nodes of some numbers. -/
inductive Meaning where
  | scalar (s : Scalar)
  | list (items : List Nat)
  | map (entries : List (Scalar × Nat))
  | set (members : List Scalar)
  | pairs (entries : List (Nat × Nat))

/-- The meanings of the nodes, and the number of the root. -/
structure Document where
  meanings : Array (Option Meaning)
  root : Nat

/-- A value, or the values that come before the place where it goes on without end. -/
abbrev Unfolded := Except (List Value) Value

namespace Document

def ofScalar (s : Scalar) : Document :=
  ⟨#[some (.scalar s)], 0⟩

def empty : Document :=
  ⟨#[some (.map [])], 0⟩

def meaning (d : Document) (id : Nat) : Meaning :=
  (d.meanings.getD id none).getD (.scalar .null)

/-- What the document as a whole means, with null in place of its parts. -/
def outline (d : Document) : Value :=
  match d.meaning d.root with
  | .scalar s => .scalar s
  | .list items => .list (items.map fun _ => .null)
  | .map entries => .map (entries.map fun (key, _) => (key, .null))
  | .set members => .set members
  | .pairs entries => .list (entries.map fun _ => .null)

end Document

/-- Unfolds one part after the other, up to the first one that goes on without end. -/
def unfoldAll {α : Type} (unfold : α → Unfolded) : List α → Except (List Value) (List Value)
  | [] => .ok []
  | part :: parts =>
    match unfold part with
    | .error before => .error before
    | .ok v =>
      match unfoldAll unfold parts with
      | .error before => .error (v :: before)
      | .ok vs => .ok (v :: vs)

def unfoldEntries {α : Type} (unfold : α → Unfolded) (entries : List (Scalar × α)) : Unfolded :=
  (unfoldAll unfold (entries.map (·.2))).map fun values => .map ((entries.map (·.1)).zip values)

namespace Document

/-- The value of a node, if its parts lie in one another no deeper than a number says. -/
def unfold (d : Document) : Nat → Nat → Unfolded
  | 0, _ => .error []
  | fuel + 1, id =>
    match d.meaning id with
    | .scalar s => .ok (.scalar s)
    | .list items => (unfoldAll (d.unfold fuel) items).map .list
    | .map entries => unfoldEntries (d.unfold fuel) entries
    | .set members => .ok (.set members)
    | .pairs entries =>
      (unfoldAll (fun (first, second) =>
        return .pair (← d.unfold fuel first) (← d.unfold fuel second)) entries).map .list

/-- The greatest depth of parts in one another that counts as finite. -/
def deepest : Nat := 490

def value (d : Document) : Unfolded :=
  d.unfold deepest d.root

end Document

/-! ## Overlaying documents without end -/

/-- A value made of parts of documents: a node, or a mapping of such values. -/
inductive Draft where
  | part (d : Document) (id : Nat)
  | map (entries : List (Scalar × Draft))

namespace Draft

/-- Writes an entry. An equal key keeps its place and its spelling; a new key comes last. -/
def put (key : Scalar) (value : Draft) : List (Scalar × Draft) → List (Scalar × Draft)
  | [] => [(key, value)]
  | (k, v) :: rest =>
    if k.sameKey key then (k, value) :: rest else (k, v) :: put key value rest

/-- One node over another, within a depth. Only a mapping over a mapping keeps anything of the lower
one. -/
def overlay (lower upper : Document) : Nat → Nat → Nat → Option Draft
  | 0, _, _ => none
  | fuel + 1, below, above =>
    match lower.meaning below, upper.meaning above with
    | .map old, .map new => do
      let entries ← new.foldlM (fun entries (key, value) => do
        let value ←
          match old.find? fun (entry : Scalar × Nat) => entry.1.sameKey key with
          | some (_, place) => overlay lower upper fuel place value
          | none => some (.part upper value)
        return put key value entries) (old.map fun (key, place) => (key, .part lower place))
      return .map entries
    | _, _ => some (.part upper above)

def unfold : Nat → Draft → Unfolded
  | 0, _ => .error []
  | fuel + 1, .part d id => d.unfold (fuel + 1) id
  | fuel + 1, .map entries => unfoldEntries (unfold fuel) entries

/-- How deep mappings lie in one another at most where they are overlaid. -/
def deepest : Nat := 980

/-- One document over another, if both do not go on without end in the same place. -/
def over? (lower upper : Document) : Option Unfolded :=
  (overlay lower upper deepest lower.root upper.root).map (unfold Document.deepest)

end Draft

end SecretVault
