import SecretVault.Text.Blank

/-!
The statements of a `.env` file: a name, and a value that is single-quoted, double-quoted or the
rest of the line. Quoted values may span lines. A statement that is not well written is dropped with
the rest of its line.
-/

namespace SecretVault.Dotenv

open SecretVault.Text

/-- A name and the value written behind it; a name alone has none. -/
structure Binding where
  name : String
  value : Option String
  deriving DecidableEq

/-- Reads part of a statement. A failure tells where reading stopped. -/
abbrev Step (α : Type) := Except (List Char) (α × List Char)

/-- The text without blanks that do not end the line. -/
def skipInline (cs : List Char) : List Char :=
  cs.dropWhile isInlineBlank

/-- The text without a leading word `export`, if blanks follow that word. -/
def skipExport (cs : List Char) : List Char :=
  match cs with
  | 'e' :: 'x' :: 'p' :: 'o' :: 'r' :: 't' :: c :: rest =>
    if isInlineBlank c then skipInline rest else cs
  | _ => cs

def upToQuote? : List Char → Option (List Char × List Char)
  | [] => none
  | c :: cs =>
    if c == '\'' then some ([], cs) else (upToQuote? cs).map fun (front, back) => (c :: front, back)

/-- The name of a statement; a comment has none. -/
def name (cs : List Char) : Step (Option (List Char)) :=
  match cs with
  | '#' :: _ => .ok (none, cs)
  | '\'' :: inside =>
    match upToQuote? inside with
    | some (c :: front, back) => .ok (some (c :: front), back)
    | _ => .error cs
  | _ =>
    let inName (c : Char) : Bool := c != '=' && c != '#' && !isBlank c
    match cs.takeWhile inName with
    | [] => .error cs
    | front => .ok (some front, cs.dropWhile inName)

/-- A quoted text without its opening quote, up to the closing one, and the text after it. A
backslash takes the next character with it, so a quote after it does not close. -/
def upToClosing? (quote : Char) : List Char → Option (List Char × List Char)
  | [] => none
  | '\\' :: c :: cs =>
    (upToClosing? quote cs).map fun (front, back) => ('\\' :: c :: front, back)
  | c :: cs =>
    if c == quote then some ([], cs)
    else (upToClosing? quote cs).map fun (front, back) => (c :: front, back)

/-- What a backslash and a character mean between single quotes. -/
def singleEscape? (c : Char) : Option Char :=
  if c == '\\' || c == '\'' then some c else none

def doubleEscape? (c : Char) : Option Char :=
  if c == '\\' || c == '\'' || c == '"' then some c
  else if c == 'a' then some '\x07'
  else if c == 'b' then some '\x08'
  else if c == 'f' then some '\x0c'
  else if c == 'n' then some '\n'
  else if c == 'r' then some '\r'
  else if c == 't' then some '\t'
  else if c == 'v' then some '\x0b'
  else none

/-- The text with its escapes replaced; a backslash before any other character stays. -/
def unescape (escape? : Char → Option Char) : List Char → List Char
  | [] => []
  | [c] => [c]
  | c :: d :: cs =>
    if c == '\\' then
      match escape? d with
      | some e => e :: unescape escape? cs
      | none => c :: unescape escape? (d :: cs)
    else c :: unescape escape? (d :: cs)

/-- The line up to the first blank that is followed by a comment. -/
def cutComment : List Char → List Char
  | [] => []
  | c :: cs =>
    if isBlank c && (cs.dropWhile isBlank).head? == some '#' then [] else c :: cutComment cs

/-- The value behind an equals sign. -/
def value (cs : List Char) : Step (List Char) :=
  match skipInline cs with
  | '\'' :: inside =>
    match upToClosing? '\'' inside with
    | some (front, back) => .ok (unescape singleEscape? front, back)
    | none => .error ('\'' :: inside)
  | '"' :: inside =>
    match upToClosing? '"' inside with
    | some (front, back) => .ok (unescape doubleEscape? front, back)
    | none => .error ('"' :: inside)
  | _ =>
    let line := cs.takeWhile (· != '\n')
    .ok (trim (cutComment line), cs.dropWhile (· != '\n'))

/-- The text after the end of a line. Only blanks and a comment may come before it. -/
def endOfLine (cs : List Char) : Step Unit :=
  let rest := match skipInline cs with
    | '#' :: more => more.dropWhile (· != '\n')
    | _ => cs
  match skipInline rest with
  | [] => .ok ((), [])
  | '\n' :: more => .ok ((), more)
  | _ => .error rest

/-- One statement, and the text after it. -/
def statement (cs : List Char) : Except (List Char) (Option Binding × List Char) := do
  let cs := trimStart cs
  if cs.isEmpty then return (none, [])
  let (found, cs) ← name (skipExport cs)
  let (written, cs) ← match skipInline cs with
    | '=' :: rest => (value rest).map fun (v, rest) => (some (String.ofList v), rest)
    | rest => pure (none, rest)
  let ((), cs) ← endOfLine cs
  return (found.map fun n => ⟨String.ofList n, written⟩, cs)

/-- The statements of a text, within a number of steps. -/
def bindingsWithin : Nat → List Char → List Binding
  | 0, _ => []
  | _, [] => []
  | fuel + 1, cs =>
    match statement cs with
    | .ok (some b, rest) => b :: bindingsWithin fuel rest
    | .ok (none, rest) => bindingsWithin fuel rest
    | .error rest => bindingsWithin fuel ((rest.dropWhile (· != '\n')).drop 1)

/-- The statements of a text. Each step takes at least one character. -/
def bindings (cs : List Char) : List Binding :=
  bindingsWithin (cs.length + 1) cs

end SecretVault.Dotenv
