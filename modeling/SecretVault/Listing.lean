/-!
Listing names page by page. A page holds the first names, in ascending order, that begin with a
given text and do not come before the cursor. The next cursor is the first name left out, so it
names a place among all names and stays good while names come and go.
-/

namespace SecretVault

/-- One page of a listing: the names, and where to continue. The empty cursor ends the listing. -/
structure Page where
  names : List String
  cursor : String
  deriving DecidableEq

namespace Listing

def startsWith (name start : String) : Bool :=
  start.toList.isPrefixOf name.toList

/-- Puts a name into an ascending list, unless it is there already. -/
def insert (name : String) : List String → List String
  | [] => [name]
  | other :: rest =>
    if name < other then name :: other :: rest
    else if name = other then other :: rest
    else other :: insert name rest

@[simp] theorem mem_insert {name other : String} {names : List String} :
    other ∈ insert name names ↔ other = name ∨ other ∈ names := by
  induction names with
  | nil => simp [insert]
  | cons first rest ih =>
    by_cases hless : name < first
    · simp [insert, hless]
    · by_cases hsame : name = first
      · simp [insert, hsame]
      · simp only [insert, hless, hsame, if_false, List.mem_cons, ih]
        constructor
        · rintro (h | h | h) <;> simp [h]
        · rintro (h | h | h) <;> simp [h]

/-- The distinct names in ascending order. -/
def ascending (names : List String) : List String :=
  names.foldr insert []

@[simp] theorem mem_ascending {name : String} {names : List String} :
    name ∈ ascending names ↔ name ∈ names := by
  induction names with
  | nil => simp [ascending]
  | cons first rest ih =>
    rw [show ascending (first :: rest) = insert first (ascending rest) from rfl, mem_insert, ih,
      List.mem_cons]

/-- The distinct names that begin with `start` and do not come before the cursor, in ascending
order. -/
def matching (names : List String) (start cursor : String) : List String :=
  ascending (names.filter fun name => startsWith name start && !(name < cursor))

/-- The first `limit` of the matching names, and the first one left out; all of them if the limit is
negative. -/
def page (names : List String) (start : String) (limit : Int) (cursor : String) : Page :=
  let found := matching names start cursor
  if limit < 0 then ⟨found, ""⟩
  else
    match found.drop limit.toNat with
    | [] => ⟨found, ""⟩
    | next :: _ => ⟨found.take limit.toNat, next⟩

end Listing

end SecretVault
