import SecretVault.Decimal.Reader
import SecretVault.Decimal.Shortest
import SecretVault.Fault
import SecretVault.Text.Quoted
import SecretVault.Value.Basic

/-!
Values as text. `text` is how a value stands in a message; `quoted` is how it stands inside a list
or mapping, where strings have quotes and dates their parts.
-/

namespace SecretVault

def commaSeparated (words : List String) : String :=
  ", ".intercalate words

/-- By how much a zone is ahead of universal time, in its parts: days may be negative, seconds are
not. -/
def quotedZone (ahead : Int) : String :=
  let days := if ahead < 0 then ["days=-1"] else []
  "datetime.timezone" ++ if ahead = 0 then ".utc" else
    "(datetime.timedelta(" ++ commaSeparated
      (days ++ ["seconds=" ++ toString (ahead % 1440 * 60)]) ++ "))"

/-- A scalar inside a list or mapping. -/
def Scalar.quoted : Scalar → String
  | .null => "None"
  | .bool b => if b then "True" else "False"
  | .int n => toString n
  | .float x => Decimal.text x
  | .nan _ _ => "nan"
  | .str t => Text.quoted t
  | .bytes b => Text.quotedBytes b
  | .timestamp t =>
    let p := Calendar.parts t.clock
    let fine := if p.micros ≠ 0 then [p.seconds, p.micros]
      else if p.seconds ≠ 0 then [p.seconds] else []
    let numbers := [p.date.year, p.date.month, p.date.day, p.hours, p.minutes] ++ fine
    let zone := t.ahead.toList.map fun ahead => "tzinfo=" ++ quotedZone ahead
    "datetime.datetime(" ++ commaSeparated (numbers.map (fun n => toString n) ++ zone) ++ ")"
  | .date d =>
    "datetime.date("
      ++ commaSeparated ([d.year, d.month, d.day].map fun n => toString n) ++ ")"

mutual

/-- A value inside a list or mapping. -/
def Value.quoted : Value → String
  | .scalar s => s.quoted
  | .list items => "[" ++ commaSeparated (quotedItems items) ++ "]"
  | .map entries => "\x7b" ++ commaSeparated (quotedEntries entries) ++ "\x7d"
  | .set [] => "set()"
  | .set members => "\x7b" ++ commaSeparated (members.map Scalar.quoted) ++ "\x7d"
  | .pair first second => "(" ++ commaSeparated [first.quoted, second.quoted] ++ ")"

def quotedItems : List Value → List String
  | [] => []
  | v :: rest => v.quoted :: quotedItems rest

def quotedEntries : List (Scalar × Value) → List String
  | [] => []
  | entry :: rest => quotedEntry entry :: quotedEntries rest

def quotedEntry : Scalar × Value → String
  | (k, v) => k.quoted ++ ": " ++ v.quoted

end

/-- A value in a message. -/
def Value.text : Value → CodePoints
  | .scalar (.str t) => t
  | .scalar (.timestamp t) => String.ofList (Calendar.timestampText ' ' t)
  | .scalar (.date d) => String.ofList (Calendar.dateText d)
  | v => v.quoted

/-! ## Numbers too long to write -/

/-- Whether a whole number has no more digits than are written. -/
def Decimal.isWritable (n : Int) : Bool :=
  n.natAbs < Nat.pow 10 mostDigits

def Scalar.isWritable : Scalar → Bool
  | .int n => Decimal.isWritable n
  | _ => true

mutual

/-- Whether all parts of a value can be written. -/
def Value.isWritable : Value → Bool
  | .scalar s => s.isWritable
  | .list items => writableItems items
  | .map entries => writableEntries entries
  | .set members => members.all Scalar.isWritable
  | .pair first second => first.isWritable && second.isWritable

def writableItems : List Value → Bool
  | [] => true
  | v :: rest => v.isWritable && writableItems rest

def writableEntries : List (Scalar × Value) → Bool
  | [] => true
  | entry :: rest => writableEntry entry && writableEntries rest

def writableEntry : Scalar × Value → Bool
  | (k, v) => k.isWritable && v.isWritable

end

/-- A value in a message, if it can be written. -/
def Value.write (v : Value) : Except Fault CodePoints :=
  if v.isWritable then .ok v.text else .error .badValue

end SecretVault
