import SecretVault.Decimal.Reader
import SecretVault.Text.Utf8
import SecretVault.Yaml.Quoted

/-!
Tokens: the words and marks of a document. Indentation has become marks where a block of lines
starts and ends, and every key has a mark before it.
-/

namespace SecretVault.Yaml

/-- A tag as written: the name of what it abbreviates, if it does, and the rest. -/
structure TagName where
  handle : Option String
  suffix : String

/-- A line for the reader of a document. -/
inductive Directive where
  | version (major minor : Nat)
  /-- What the handle of a tag abbreviates. -/
  | handle (handle meaning : String)
  | reserved

inductive Token where
  | directive (d : Directive)
  | documentStart
  | documentEnd
  | sequenceStart
  | mappingStart
  | blockEnd
  | flowSequenceStart
  | flowSequenceEnd
  | flowMappingStart
  | flowMappingEnd
  | flowEntry
  | blockEntry
  | key
  | value
  | alias (name : String)
  | anchor (name : String)
  | tag (name : TagName)
  | scalar (text : CodePoints) (plain : Bool)

/-- Whether the character can stand in the name of an anchor or a handle. -/
def isNameChar (c : Char) : Bool :=
  c.isAlphanum || c == '-' || c == '_'

/-- Whether the character can stand in the rest of a tag. -/
def isTagChar (c : Char) : Bool :=
  c.isAlphanum || "-;/?:@&=+$,_.!~*'()[]%".toList.contains c

/-- Whether what comes next can follow the name of an anchor. -/
def endsAnchor (c : Option Char) : Bool :=
  endsWord c || (c.map "?:,]\x7d%@`".toList.contains).getD false

/-- The name of an anchor or alias, after its sign. -/
def anchorName (k : Cursor) : Except Error (String × Cursor) :=
  let (name, k) := k.takeWhile isNameChar
  if name.isEmpty || !endsAnchor k.peek then k.fail
  else .ok (String.ofList name, k)

/-- The bytes that the numbered escapes at a place spell, within a number of escapes. -/
def tagBytes : Nat → Cursor → Except Error (Bytes × Cursor)
  | 0, k => .ok ([], k)
  | fuel + 1, k =>
    if k.peek != some '%' then .ok ([], k)
    else do
      let n ← hexNumber 2 k.next
      let (more, k) ← tagBytes fuel (k.skip 3)
      return (UInt8.ofNat n :: more, k)

/-- The rest of a tag, within a number of steps. -/
def tagTextWithin : Nat → Cursor → Except Error (List Char × Cursor)
  | 0, k => .ok ([], k)
  | fuel + 1, k => do
    let (run, k) := k.takeWhile fun c => isTagChar c && c != '%'
    if k.peek != some '%' then return (run, k)
    else
      let (bytes, k) ← tagBytes (k.size + 1) k
      match Utf8.decode? bytes with
      | none => k.fail
      | some cs =>
        let (more, k) ← tagTextWithin fuel k
        return (run ++ cs ++ more, k)

/-- The rest of a tag; it may not be empty. -/
def tagText (k : Cursor) : Except Error (String × Cursor) := do
  let (cs, after) ← tagTextWithin (k.size + 1) k
  if after.index == k.index then k.fail else return (String.ofList cs, after)

/-- A handle: an exclamation mark, or a name between two. -/
def tagHandle (k : Cursor) : Except Error (String × Cursor) :=
  if k.peek != some '!' then k.fail
  else
    let (name, after) := k.next.takeWhile isNameChar
    if after.peek == some '!' then .ok (String.ofList ('!' :: name ++ ['!']), after.next)
    else if name.isEmpty && k.peekAt 1 == some ' ' then .ok ("!", k.next)
    else after.fail

/-- Whether a second exclamation mark comes before the end of the word. -/
def hasHandle (cs : List Char) : Bool :=
  (cs.takeWhile fun c => c != ' ' && !isBreak c).contains '!'

/-- The tag whose exclamation mark comes next. -/
def tagName (k : Cursor) : Except Error (TagName × Cursor) := do
  let (name, k) ←
    if k.peekAt 1 == some '<' then do
      let (suffix, k) ← tagText (k.skip 2)
      if k.peek == some '>' then pure (TagName.mk none suffix, k.next) else k.fail
    else if endsWord (k.peekAt 1) then pure (TagName.mk none "!", k.next)
    else do
      let (handle, k) ← if hasHandle k.next.rest then tagHandle k else pure ("!", k.next)
      let (suffix, k) ← tagText k
      pure (TagName.mk (some handle) suffix, k)
  if endsMark k.peek then return (name, k) else k.fail

def directiveNumber (k : Cursor) : Except Error (Nat × Cursor) :=
  let (ds, k) := k.takeWhile Decimal.isDigit
  if ds.isEmpty then k.fail
  else if Decimal.mostDigits < ds.length then .error (.fault .badValue)
  else .ok (Decimal.ofDigits ds, k)

def directiveVersion (k : Cursor) : Except Error (Directive × Cursor) := do
  let (major, k) ← directiveNumber (k.skipWhile (· == ' '))
  if k.peek != some '.' then k.fail
  else
    let (minor, k) ← directiveNumber k.next
    if endsMark k.peek then return (.version major minor, k) else k.fail

def directiveHandle (k : Cursor) : Except Error (Directive × Cursor) := do
  let (handle, k) ← tagHandle (k.skipWhile (· == ' '))
  if k.peek != some ' ' then k.fail
  else
    let (meaning, k) ← tagText (k.skipWhile (· == ' '))
    if endsMark k.peek then return (.handle handle meaning, k) else k.fail

/-- The directive whose percent sign comes next. -/
def directive (k : Cursor) : Except Error (Directive × Cursor) := do
  let (name, k) := k.next.takeWhile isNameChar
  if name.isEmpty || !endsMark k.peek then k.fail
  else
    let (d, k) ←
      if name == "YAML".toList then directiveVersion k
      else if name == "TAG".toList then directiveHandle k
      else pure (Directive.reserved, k.skipWhile (!isBreak ·))
    let k ← k.restOfLine
    return (d, k)

end SecretVault.Yaml
