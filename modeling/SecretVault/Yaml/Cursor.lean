import SecretVault.Fault

/-!
Places in the text of a document. A place knows what is left of the text, and its line and column,
because indentation carries meaning. Line ends are the line feed, the next-line character, and the
line and paragraph separators; the last two stay in the text, the others read as a line feed.
-/

namespace SecretVault.Yaml

/-- Why a document cannot be read. -/
inductive Error where
  /-- The text is not a document, or a part of it has no meaning. -/
  | malformed
  /-- A scalar does not have the form that its type asks for. -/
  | fault (f : Fault)
  deriving DecidableEq

def isBreak (c : Char) : Bool :=
  c == '\n' || c == '\u0085' || c == '\u2028' || c == '\u2029'

/-- Whether the character is a space or a tab. -/
def isSpace (c : Char) : Bool :=
  c == ' ' || c == '\t'

/-- Whether a word ends before what comes next: a space, a tab, a line end, or nothing. -/
def endsWord : Option Char → Bool
  | none => true
  | some c => isSpace c || isBreak c

/-- Whether a mark ends before what comes next: a space, a line end, or nothing. -/
def endsMark : Option Char → Bool
  | none => true
  | some c => c == ' ' || isBreak c

/-- Whether a line ends before what comes next. -/
def endsLine : Option Char → Bool
  | none => true
  | some c => isBreak c

/-- A place in a text: what is left, the number of characters before it, and its line and column. A
text may go on after what is left without being readable; the ending is what is wrong there. The
size is the number of characters of the whole text, which no count of its parts exceeds. -/
structure Cursor where
  rest : List Char
  index : Nat
  line : Nat
  column : Nat
  ending : Option Error
  size : Nat

namespace Cursor

def start (cs : List Char) (ending : Option Error) : Cursor :=
  ⟨cs, 0, 0, 0, ending, cs.length⟩

/-- What is wrong with the text at a place where all that is readable has been read. -/
def trouble? (k : Cursor) : Option Error :=
  if k.rest.isEmpty then k.ending else none

/-- What comes next does not fit, or cannot be read at all. -/
def fail {α : Type} (k : Cursor) : Except Error α :=
  .error (k.trouble?.getD .malformed)

def peek (k : Cursor) : Option Char :=
  k.rest.head?

def peekAt (k : Cursor) (n : Nat) : Option Char :=
  k.rest[n]?

/-- The place after the next character. A byte order mark takes no column. -/
def next (k : Cursor) : Cursor :=
  match k.rest with
  | [] => k
  | c :: rest =>
    let k := { k with rest := rest, index := k.index + 1 }
    if isBreak c then { k with line := k.line + 1, column := 0 }
    else if c == '\ufeff' then k
    else { k with column := k.column + 1 }

def skip (k : Cursor) : Nat → Cursor
  | 0 => k
  | n + 1 => k.next.skip n

/-- The longest run of characters of a class, and the place after it. -/
def takeWhile (k : Cursor) (p : Char → Bool) : List Char × Cursor :=
  let run := k.rest.takeWhile p
  (run, k.skip run.length)

def skipWhile (k : Cursor) (p : Char → Bool) : Cursor :=
  (k.takeWhile p).2

/-- The line end that comes next, if one does, as it reads, and the place after it. -/
def takeBreak (k : Cursor) : List Char × Cursor :=
  match k.peek with
  | none => ([], k)
  | some c =>
    if c == '\u2028' || c == '\u2029' then ([c], k.next)
    else if isBreak c then (['\n'], k.next)
    else ([], k)

/-- Whether a mark between documents comes next: three minus signs or three points, and then the end
of a word. -/
def atDocumentMark (k : Cursor) : Bool :=
  let three := k.rest.take 3
  (three == ['-', '-', '-'] || three == ['.', '.', '.']) && endsWord (k.peekAt 3)

/-- The place after spaces and a comment, if the line ends there. -/
def restOfLine (k : Cursor) : Except Error Cursor :=
  let k := k.skipWhile (· == ' ')
  let k := if k.peek == some '#' then k.skipWhile (!isBreak ·) else k
  if endsLine k.peek then .ok k.takeBreak.2 else k.fail

end Cursor

/-- Two lines joined: a lone line feed reads as a space, other line ends stay. -/
def joined (lineEnd further : List Char) : List Char :=
  if lineEnd != ['\n'] then lineEnd ++ further
  else if further.isEmpty then [' ']
  else further

end SecretVault.Yaml
