import SecretVault.Yaml.Block
import SecretVault.Yaml.Plain
import SecretVault.Yaml.Token

/-!
The layout of a document: its tokens, read off its lines and their indentation. A block of lines
starts where a key or an entry stands right of the lines around it, and ends where a line starts
left of it. A key is known by the colon after it, so the place where a key may have started is kept
until the line ends, and the mark of the key goes there once the colon is seen. The text is read no
further than the next token asks for, which is known once no mark can come before it any more.
-/

namespace SecretVault.Yaml

/-- A place where a key may have started. -/
structure KeyPlace where
  /-- The number of tokens before the place. -/
  before : Nat
  /-- Whether the indentation leaves nothing but a key. -/
  required : Bool
  index : Nat
  line : Nat
  column : Nat

/-- A document read up to a place. -/
structure Layout where
  cursor : Cursor
  /-- The tokens that are read and not taken, the next one first. -/
  queue : List Token
  /-- The number of tokens taken. -/
  taken : Nat
  /-- Whether the end of the text is reached, so that no token is to come. -/
  ended : Bool
  /-- The least column that is inside the innermost block. -/
  margin : Nat
  /-- The margins of the blocks around it. -/
  margins : List Nat
  /-- Where a key may have started inside the innermost bracket. -/
  keyPlace : Option KeyPlace
  /-- The same for what is around each bracket that is open, the innermost first. -/
  keyPlaces : List (Option KeyPlace)
  /-- Whether a key may start here. -/
  keyAllowed : Bool

namespace Layout

def start (cs : List Char) (ending : Option Error) : Layout where
  cursor := Cursor.start cs ending
  queue := []
  taken := 0
  ended := false
  margin := 0
  margins := []
  keyPlace := none
  keyPlaces := []
  keyAllowed := true

def inFlow (l : Layout) : Bool :=
  !l.keyPlaces.isEmpty

def push (l : Layout) (t : Token) : Layout :=
  { l with queue := l.queue ++ [t] }

/-- Puts tokens after the first `before` ones. -/
def insert (l : Layout) (before : Nat) (ts : List Token) : Layout :=
  let waiting := before - l.taken
  { l with queue := l.queue.take waiting ++ ts ++ l.queue.drop waiting }

/-- Forgets where a key may have started. It may not be forgotten where nothing but a key fits. -/
def dropKey (l : Layout) : Except Error Layout :=
  match l.keyPlace with
  | none => .ok l
  | some place => if place.required then .error .malformed else .ok { l with keyPlace := none }

/-- Notes that a key may start here. -/
def noteKey (l : Layout) : Except Error Layout :=
  if l.keyAllowed then do
    let l ← l.dropKey
    let k := l.cursor
    let required := !l.inFlow && l.margin == k.column + 1
    let before := l.taken + l.queue.length
    return { l with keyPlace := some ⟨before, required, k.index, k.line, k.column⟩ }
  else .ok l

/-- The place, unless its line is over or it is too far away for a key. -/
def KeyPlace.current (k : Cursor) : Option KeyPlace → Except Error (Option KeyPlace)
  | none => .ok none
  | some place =>
    if place.line != k.line || 1024 < k.index - place.index then
      if place.required then .error .malformed else .ok none
    else .ok (some place)

/-- Forgets the places of keys whose line is over. -/
def dropStale (l : Layout) : Except Error Layout := do
  let keyPlace ← KeyPlace.current l.cursor l.keyPlace
  let keyPlaces ← l.keyPlaces.mapM (KeyPlace.current l.cursor)
  return { l with keyPlace := keyPlace, keyPlaces := keyPlaces }

/-- The margins, the innermost first, without those right of a margin, and how many those are. The
last one stays. -/
def outerMargins (margin : Nat) : Nat → List Nat → Nat × List Nat × Nat
  | inner, [] => (inner, [], 0)
  | inner, outer :: margins =>
    if margin < inner then
      let (inner, margins, ended) := outerMargins margin outer margins
      (inner, margins, ended + 1)
    else (inner, outer :: margins, 0)

/-- Ends all blocks whose margin is right of a margin. Brackets leave blocks alone. -/
def unwind (l : Layout) (margin : Nat) : Layout :=
  if l.inFlow then l
  else
    let (margin, margins, ended) := outerMargins margin l.margin l.margins
    { l with
      margin := margin, margins := margins,
      queue := l.queue ++ List.replicate ended .blockEnd }

/-- Whether what stands at a column is right of the lines around it. -/
def opensBlock (l : Layout) (column : Nat) : Bool :=
  l.margin ≤ column

/-- Starts a block at a column. -/
def openBlock (l : Layout) (column : Nat) : Layout :=
  { l with margin := column + 1, margins := l.margin :: l.margins }

/-- Starts a block at the next token, with a mark for it, if it stands right of the lines around it.
-/
def openBlockHere (l : Layout) (mark : Token) : Layout :=
  if l.opensBlock l.cursor.column then (l.openBlock l.cursor.column).push mark else l

/-- Goes over blanks, comments and line ends, within a number of lines. A key may start on a new
line. -/
def skipLines : Nat → Layout → Layout
  | 0, l => l
  | fuel + 1, l =>
    let k := l.cursor.skipWhile (· == ' ')
    let k := if k.peek == some '#' then k.skipWhile (!isBreak ·) else k
    if (k.peek.map isBreak).getD false then
      skipLines fuel { l with cursor := k.next, keyAllowed := l.keyAllowed || !l.inFlow }
    else { l with cursor := k }

/-- Goes to the next token. A byte order mark may start the text. -/
def skipToToken (l : Layout) : Layout :=
  let k := l.cursor
  let k := if k.index == 0 && k.peek == some '\ufeff' then k.next else k
  skipLines (k.size + 1) { l with cursor := k }

/-- A mark of some characters after which no key starts in this line. -/
def fetchMark (l : Layout) (width : Nat) (t : Token) : Layout :=
  { l.push t with cursor := l.cursor.skip width, keyAllowed := false }

/-- A mark between documents, or a directive: all blocks end. -/
def endDocument (l : Layout) : Except Error Layout :=
  (l.unwind 0).dropKey

def fetchOpening (l : Layout) (t : Token) : Except Error Layout := do
  let l ← l.noteKey
  return { l.push t with
    cursor := l.cursor.next, keyPlace := none, keyPlaces := l.keyPlace :: l.keyPlaces,
    keyAllowed := true }

/-- A closing bracket; one has to be open. -/
def fetchClosing (l : Layout) (t : Token) : Except Error Layout := do
  let l ← l.dropKey
  match l.keyPlaces with
  | [] => .error .malformed
  | place :: places =>
    return { l.fetchMark 1 t with keyPlace := place, keyPlaces := places }

def fetchBlockEntry (l : Layout) : Except Error Layout := do
  if !l.inFlow && !l.keyAllowed then .error .malformed
  else
    let l := if l.inFlow then l else l.openBlockHere .sequenceStart
    let l ← l.dropKey
    return { l.fetchMark 1 .blockEntry with keyAllowed := true }

def fetchKey (l : Layout) : Except Error Layout := do
  if !l.inFlow && !l.keyAllowed then .error .malformed
  else
    let l := if l.inFlow then l else l.openBlockHere .mappingStart
    let l ← l.dropKey
    return { l.fetchMark 1 .key with keyAllowed := !l.inFlow }

/-- The colon before a value. It makes a key of what may be one. -/
def fetchValue (l : Layout) : Except Error Layout := do
  match l.keyPlace with
  | some place =>
    let opens := !l.inFlow && l.opensBlock place.column
    let l := l.insert place.before (if opens then [.mappingStart, .key] else [.key])
    let l := if opens then l.openBlock place.column else l
    return { l.fetchMark 1 .value with keyPlace := none }
  | none =>
    if !l.inFlow && !l.keyAllowed then .error .malformed
    else
      let l := if l.inFlow then l else l.openBlockHere .mappingStart
      return { l.fetchMark 1 .value with keyAllowed := !l.inFlow }

/-- A token that is read off the text and may be a key. -/
def fetchWord (l : Layout) (read : Cursor → Except Error (Token × Cursor)) :
    Except Error Layout := do
  let l ← l.noteKey
  let (t, k) ← read l.cursor
  return { l.push t with cursor := k, keyAllowed := false }

def fetchBlock (l : Layout) (folded : Bool) : Except Error Layout := do
  let l ← l.dropKey
  let (text, k) ← block folded l.margin l.cursor
  return { l.push (.scalar (text.map .ofChar) false) with cursor := k, keyAllowed := true }

def fetchQuoted (l : Layout) (double : Bool) : Except Error Layout :=
  l.fetchWord fun k => (quoted double k).map fun (text, k) => (.scalar text false, k)

/-- A plain scalar. A key may start after it if its line is over. -/
def fetchPlain (l : Layout) : Except Error Layout := do
  let l ← l.noteKey
  let scalar := plain l.inFlow l.margin l.cursor
  return { l.push (.scalar (scalar.text.map .ofChar) true) with
    cursor := scalar.cursor, keyAllowed := scalar.endsLine }

/-- Whether a plain scalar can start with the character, by what comes after it. -/
def startsPlain (l : Layout) (c : Char) : Bool :=
  if endsWord (some c) then false
  else if "-?:,[]\x7b\x7d#&*!|>'\"%@`".toList.contains c then
    !endsWord (l.cursor.peekAt 1) && (c == '-' || (!l.inFlow && (c == '?' || c == ':')))
  else true

/-- Reads the token that starts with the character. -/
def fetch (l : Layout) (c : Char) : Except Error Layout := do
  let atStart := l.cursor.column == 0
  let alone := endsWord (l.cursor.peekAt 1)
  if c == '%' && atStart then
    let l ← l.endDocument
    let (d, k) ← directive l.cursor
    return { l.push (.directive d) with cursor := k, keyAllowed := false }
  else if atStart && l.cursor.atDocumentMark then
    let l ← l.endDocument
    return l.fetchMark 3 (if c == '-' then .documentStart else .documentEnd)
  else if c == '[' then l.fetchOpening .flowSequenceStart
  else if c == '\x7b' then l.fetchOpening .flowMappingStart
  else if c == ']' then l.fetchClosing .flowSequenceEnd
  else if c == '\x7d' then l.fetchClosing .flowMappingEnd
  else if c == ',' then
    let l ← l.dropKey
    return { l.fetchMark 1 .flowEntry with keyAllowed := true }
  else if c == '-' && alone then l.fetchBlockEntry
  else if c == '?' && (l.inFlow || alone) then l.fetchKey
  else if c == ':' && (l.inFlow || alone) then l.fetchValue
  else if c == '*' then
    l.fetchWord fun k => (anchorName k.next).map fun (name, k) => (.alias name, k)
  else if c == '&' then
    l.fetchWord fun k => (anchorName k.next).map fun (name, k) => (.anchor name, k)
  else if c == '!' then
    l.fetchWord fun k => (tagName k).map fun (name, k) => (.tag name, k)
  else if c == '|' && !l.inFlow then l.fetchBlock false
  else if c == '>' && !l.inFlow then l.fetchBlock true
  else if c == '\'' then l.fetchQuoted false
  else if c == '"' then l.fetchQuoted true
  else if l.startsPlain c then l.fetchPlain
  else l.cursor.fail

/-- Stops where the text goes on but cannot be read. -/
def checked (l : Layout) : Except Error Layout :=
  match l.cursor.trouble? with
  | some e => .error e
  | none => .ok l

/-- Reads on up to the end of the next token, or of the text. -/
def advance (l : Layout) : Except Error Layout := do
  let l ← l.skipToToken.checked
  let l ← l.dropStale
  let l := l.unwind (l.cursor.column + 1)
  match l.cursor.peek with
  | none => return { (← l.endDocument) with keyPlace := none, keyPlaces := [], ended := true }
  | some c => (← l.fetch c).checked

/-- The least number of tokens before a place where a key may have started. -/
def firstKey? (l : Layout) : Option Nat :=
  ((l.keyPlace :: l.keyPlaces).filterMap id |>.map KeyPlace.before).min?

/-- Reads on until it is known which token is next, within a number of tokens. -/
def settle : Nat → Layout → Except Error Layout
  | 0, l => l.cursor.fail
  | fuel + 1, l =>
    if l.ended then .ok l
    else if l.queue.isEmpty then do settle fuel (← l.advance)
    else do
      let l ← l.dropStale
      if l.firstKey? == some l.taken then settle fuel (← l.advance) else return l

/-- The next token, if there is one. Each token takes at least one character. -/
def next (l : Layout) : Except Error (Option Token × Layout) := do
  let l ← settle (l.cursor.size + 2) l
  return (l.queue.head?, l)

def take (l : Layout) : Layout :=
  { l with queue := l.queue.tail, taken := l.taken + 1 }

end Layout

end SecretVault.Yaml
