import SecretVault.Value.Basic

/-!
Overlaying one mapping on another. Where both have a mapping under a key the two are overlaid in
turn; everywhere else the upper value replaces the lower one whole.
-/

namespace SecretVault

mutual

/-- The upper value over the lower one. Only a mapping over a mapping keeps anything of the lower
one. -/
def Value.overlay (lower : Value) : Value → Value
  | .map upper =>
    match lower with
    | .map entries => .map (overlayAll entries upper)
    | _ => .map upper
  | .scalar s => .scalar s
  | .list items => .list items
  | .set members => .set members
  | .pair first second => .pair first second

/-- Writes the upper entries over the lower ones, in order. -/
def overlayAll (lower : List (Scalar × Value)) : List (Scalar × Value) → List (Scalar × Value)
  | [] => lower
  | entry :: rest => overlayAll (overlayOne lower entry) rest

def overlayOne (lower : List (Scalar × Value)) : Scalar × Value → List (Scalar × Value)
  | (key, value) => Entries.alter key (fun old => Value.overlay (old.getD .null) value) lower

end

def Entries.overlay (lower upper : Entries) : Entries :=
  overlayAll lower upper

/-- The value that a path of keys leads to. -/
def Value.at? : Value → List Scalar → Option Value
  | v, [] => some v
  | .map entries, key :: path =>
    match Entries.find? key entries with
    | some v => v.at? path
    | none => none
  | _, _ :: _ => none

end SecretVault
