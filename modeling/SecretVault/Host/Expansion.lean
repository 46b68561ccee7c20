import SecretVault.Host.Basic

/-!
Paths with a home folder or variables in them. A leading tilde stands for the home folder, and with
a name behind it for that of an account; a dollar sign and a name, plain or in braces, stand for a
variable, and stay as they are if it is not set.
-/

namespace SecretVault.Machine

/-- The home folder of an account, or of the one in use if none is named; nothing if it is not
known. -/
def home? (m : Machine) (account : CodePoints) : Except Fault (Option CodePoints) :=
  if account.isEmpty then .ok ((m.value? "HOME").or m.home)
  else if account.contains .nul then .error .badValue
  else if account.isEncodable then .ok ((m.accounts.find? (·.1 == account)).map (·.2))
  else .error .unencodable

/-- The path with a leading tilde, and the name of an account behind it, replaced by the home
folder. An unknown account stays as it is. -/
def expandHome (m : Machine) (path : CodePoints) : Except Fault CodePoints :=
  match path with
  | [] => .ok path
  | p :: rest =>
    if p = .ofChar '~' then do
      match ← m.home? (rest.takeWhile (· != slash)) with
      | none => return path
      | some home =>
        let full := (home.reverse.dropWhile (· == slash)).reverse ++ rest.dropWhile (· != slash)
        return if full.isEmpty then "/" else full
    else .ok path

/-- Whether a code point can stand in a variable's name without braces. -/
def isNamePoint (p : CodePoint) : Bool :=
  p.char?.any fun c => c.isAlphanum || c == '_'

/-- The name that follows a dollar sign, as it is written, and the text after it. -/
def reference? (s : CodePoints) : Option (CodePoints × CodePoints × CodePoints) :=
  let isInside (p : CodePoint) : Bool := p != Placeholder.closing
  if s.head? == some (.ofChar '\x7b') then
    match s.tail.dropWhile isInside with
    | close :: rest =>
      let name := s.tail.takeWhile isInside
      some (name, s.take 1 ++ name ++ [close], rest)
    | [] => none
  else
    let name := s.takeWhile isNamePoint
    if name.isEmpty then none else some (name, name, s.dropWhile isNamePoint)

/-- The text with its variables replaced, within a number of steps. -/
def expandWithin (m : Machine) : Nat → CodePoints → CodePoints
  | 0, s => s
  | _, [] => []
  | fuel + 1, p :: s =>
    if p = .ofChar '$' then
      match reference? s with
      | some (name, written, rest) =>
        (m.value? name).getD (p :: written) ++ m.expandWithin fuel rest
      | none => p :: m.expandWithin fuel s
    else p :: m.expandWithin fuel s

/-- The path with its variables replaced. Each step takes at least one code point. -/
def expandVariables (m : Machine) (path : CodePoints) : CodePoints :=
  m.expandWithin (path.length + 1) path

end SecretVault.Machine
