import SecretVault.Decimal.Radix
import SecretVault.Text.Base64
import SecretVault.Text.LowerCase
import SecretVault.Value.Number
import SecretVault.Yaml.Time

/-!
Tags: the types of the parts of a document. A plain scalar without a tag has the type that its text
looks like, and so has any scalar whose tag is a mark alone; every other part says its type or is
text, a sequence or a mapping.
-/

namespace SecretVault.Yaml

/-- The type of a part of a document. -/
inductive Tag where
  | null
  | bool
  | int
  | float
  | timestamp
  | binary
  | text
  /-- The key whose value is merged into the mapping. -/
  | merge
  /-- The key of a mapping's own value. -/
  | value
  | sequence
  | mapping
  /-- The keys of a mapping, without its values. -/
  | set
  /-- A sequence of mappings of one entry each, which are read as pairs. -/
  | pairs
  /-- A type that has no meaning here. -/
  | unknown
  deriving DecidableEq

namespace Tag

/-- What the tags of the format's own types start with. -/
def standard : String :=
  "tag:yaml.org,2002:"

/-- The tag that is written out. -/
def ofName (name : String) : Tag :=
  let known : List (String × Tag) := [("null", .null), ("bool", .bool), ("int", .int),
    ("float", .float), ("timestamp", .timestamp), ("binary", .binary), ("str", .text),
    ("merge", .merge), ("value", .value), ("seq", .sequence), ("map", .mapping), ("set", .set),
    ("omap", .pairs), ("pairs", .pairs)]
  match known.find? fun (short, _) => standard ++ short == name with
  | some (_, tag) => tag
  | none => .unknown

/-! ## What plain text looks like -/

def isGrouped (c : Char) : Bool :=
  Decimal.isDigit c || c == '_'

/-- Whether the text is a digit and then digits and separators. -/
def isWhole : List Char → Bool
  | [] => false
  | c :: cs => Decimal.isDigit c && cs.all isGrouped

/-- The parts of a text between colons. -/
def parts : List Char → List (List Char)
  | [] => [[]]
  | c :: cs =>
    match parts cs with
    | [] => [[c]]
    | part :: more => if c == ':' then [] :: part :: more else (c :: part) :: more

/-- Whether the text is a number below sixty, in one or two digits. -/
def isSixtieth : List Char → Bool
  | [a] => Decimal.isDigit a
  | [a, b] => Decimal.isDigit a && a ≤ '5' && Decimal.isDigit b
  | _ => false

/-- Whether the text is a number and then, after colons, sixtieths. -/
def isSexagesimal (cs : List Char) : Bool :=
  match parts cs with
  | [] => false
  | first :: more => isWhole first && more.all isSixtieth

/-- Whether the text is a whole number: in base 2, 16 or 8 after `0b`, `0x` or `0`, else in base 10
or 60. -/
def isInt (cs : List Char) : Bool :=
  match (Decimal.splitSign cs).2 with
  | '0' :: 'b' :: ds => !ds.isEmpty && ds.all fun c => c == '0' || c == '1' || c == '_'
  | '0' :: 'x' :: ds => !ds.isEmpty && ds.all fun c => (Decimal.digitIn? 16 c).isSome || c == '_'
  | '0' :: ds => ds.all fun c => (Decimal.digitIn? 8 c).isSome || c == '_'
  | ds => isSexagesimal ds

/-- Whether the text is empty or the exponent of a float, with a sign. -/
def isExponent : List Char → Bool
  | [] => true
  | c :: s :: ds => (c == 'e' || c == 'E') && (s == '+' || s == '-')
      && !ds.isEmpty && ds.all Decimal.isDigit
  | _ => false

/-- Whether the text is a float: it has a point, and before it a whole number unless digits follow,
or it is an infinity or not a number. -/
def isFloat (cs : List Char) : Bool :=
  let unsigned := (Decimal.splitSign cs).2
  let whole := unsigned.takeWhile (· != '.')
  match unsigned.dropWhile (· != '.') with
  | [] => false
  | _ :: rest =>
    if whole.isEmpty then
      [".inf", ".Inf", ".INF"].any (·.toList == unsigned)
        || [".nan", ".NaN", ".NAN"].any (·.toList == cs)
        || (unsigned.length == cs.length && (rest.head?.map Decimal.isDigit).getD false
          && isExponent (rest.dropWhile isGrouped))
    else if whole.contains ':' then isSexagesimal whole && rest.all isGrouped
    else isWhole whole && isExponent (rest.dropWhile isGrouped)

def nullWords : List String :=
  ["", "~", "null", "Null", "NULL"]

def truthWords : List (String × Bool) :=
  [("yes", true), ("no", false), ("true", true), ("false", false), ("on", true), ("off", false)]

/-- A word with its first letter as a capital. -/
def capitalized : List Char → List Char
  | [] => []
  | c :: cs => c.toUpper :: cs

/-- Whether the text is a word for yes or no, in small letters, capitals, or with a first capital.
-/
def isBool (cs : List Char) : Bool :=
  truthWords.any fun (word, _) =>
    let word := word.toList
    cs == word || cs == capitalized word || cs == word.map Char.toUpper

/-- The text without one line end after it. -/
def withoutLineEnd (cs : List Char) : List Char :=
  if cs.getLast? == some '\n' then cs.dropLast else cs

/-- The type that a text looks like. A line end may follow it, but is not nothing by itself. The
marks of tags, anchors and aliases have a type of their own, which means nothing. -/
def ofPlain (cs : List Char) : Tag :=
  let word := withoutLineEnd cs
  if cs == ['\n'] then .text
  else if nullWords.any (·.toList == word) then .null
  else if isBool word then .bool
  else if isFloat word then .float
  else if isInt word then .int
  else if word == ['<', '<'] then .merge
  else if isDate word then .timestamp
  else if word == ['='] then .value
  else if word == ['!'] || word == ['&'] || word == ['*'] then .unknown
  else .text

/-! ## What scalars mean -/

/-- A number without its separators. -/
def ungrouped (cs : List Char) : List Char :=
  cs.filter (· != '_')

/-- The value, or the fault if there is none. -/
def orFault {α : Type} (f : Fault) (v : Option α) : Except Error α :=
  v.elim (.error (.fault f)) .ok

/-- Numbers in base 60 added up; the first one counts most. -/
def sexagesimal (ns : List Int) : Int :=
  ns.foldl (fun n m => 60 * n + m) 0

/-- Reads a whole number without its sign. -/
def size (cs : List Char) : Except Error Int :=
  match cs with
  | [] => .error (.fault .emptyText)
  | ['0'] => .ok 0
  | '0' :: 'b' :: ds => orFault .badValue (Decimal.intIn? 2 ds)
  | '0' :: 'x' :: ds => orFault .badValue (Decimal.intIn? 16 ds)
  | '0' :: _ => orFault .badValue (Decimal.intIn? 8 cs)
  | _ =>
    if cs.contains ':' then
      (orFault .badValue ((parts cs).mapM Decimal.int?)).map sexagesimal
    else orFault .badValue (Decimal.int? cs)

def readInt (cs : List Char) : Except Error Int :=
  let cs := ungrouped cs
  let (negative, ds) := Decimal.splitSign cs
  (size ds).map fun n => if negative then -n else n

/-- Numbers in base 60 added up, the first one counting so much, and each later one sixty times the
one before. The count of each has to be a float. -/
def sexagesimalFloat (count : Int) (total : Float) : List Float → Except Error Float
  | [] => .ok total
  | x :: xs => do
    let weight ← (Value.floatOfInt count).mapError .fault
    sexagesimalFloat (60 * count) (total + x * weight) xs

/-- The sign of a float and the text after it, in lower case and without separators. -/
def floatText (cs : List Char) : Bool × List Char :=
  Decimal.splitSign (Text.lower (ungrouped cs))

def nanWord : List Char := ".nan".toList

def readFloat (cs : List Char) : Except Error Float := do
  if (ungrouped cs).isEmpty then .error (.fault .emptyText)
  else
    let (negative, ds) := floatText cs
    let sign : Float := if negative then -1.0 else 1.0
    if ds == ".inf".toList then return sign * (1.0 / 0.0)
    else if ds == nanWord then return 0.0 / 0.0
    else if ds.contains ':' then
      let xs ← orFault .badValue ((parts ds).mapM Decimal.float?)
      return sign * (← sexagesimalFloat 1 0.0 xs.reverse)
    else return sign * (← orFault .badValue (Decimal.float? ds))

/-- What a float reads as. All that are written by the word for it are one and the same; what a
computation makes is marked by where it stands. -/
def floatScalar (document node : Nat) (cs : List Char) (x : Float) : Scalar :=
  if x.isNaN && (floatText cs).2 != nanWord then .nan document node else .float x

def readBool (cs : List Char) : Except Error Bool :=
  orFault .missingField <|
    (truthWords.find? fun (word, _) => word.toList == Text.lower cs).map (·.2)

def readBinary (cs : List Char) : Except Error Bytes :=
  if cs.all (·.toNat < 128) then (Base64.decode? cs).elim (.error .malformed) .ok
  else .error .malformed

/-- What a scalar of a type means, at a node of a document. Only in text may a surrogate stand. -/
def read (document node : Nat) (tag : Tag) (text : CodePoints) : Except Error Scalar :=
  let cs := text.shown
  match tag with
  | .null => .ok .null
  | .bool => (readBool cs).map .bool
  | .int => (readInt cs).map .int
  | .float => (readFloat cs).map (floatScalar document node cs)
  | .timestamp => do
    let written ← orFault .unsupported (writtenDate? (withoutLineEnd cs))
    orFault .badValue written.scalar?
  | .binary => (readBinary cs).map .bytes
  | .text => .ok (.str text)
  | _ => .error .malformed

end Tag

end SecretVault.Yaml
