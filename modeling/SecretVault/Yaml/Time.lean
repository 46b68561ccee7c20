import SecretVault.Value.Basic
import SecretVault.Yaml.Cursor

/-!
Dates and times in documents. A date is a year, a month and a day; a time of day may follow, with
fractions of a second and a zone, and keeps the zone that is written.
-/

namespace SecretVault.Yaml

/-- A zone: universal time, or minutes before or after it. -/
structure Zone where
  behind : Bool
  hours : Nat
  minutes : Nat

/-- A time of day as written. -/
structure WrittenTime where
  hour : Nat
  minute : Nat
  second : Nat
  fraction : List Char
  zone : Option Zone

/-- A date as written, and the time of day, if there is one. -/
structure WrittenDate where
  year : Nat
  month : Nat
  day : Nat
  /-- Whether month and day have two digits each. -/
  full : Bool
  time : Option WrittenTime

/-- A number of `least` to `most` digits, as many as there are. -/
def field? (least most : Nat) (cs : List Char) : Option (List Char × List Char) :=
  let ds := (cs.take most).takeWhile Decimal.isDigit
  if least ≤ ds.length then some (ds, cs.drop ds.length) else none

/-- What comes after a certain character. -/
def after? (c : Char) : List Char → Option (List Char)
  | [] => none
  | d :: cs => if c == d then some cs else none

/-- A zone: the letter `Z`, or a sign with hours and perhaps minutes. -/
def zone? : List Char → Option Zone
  | ['Z'] => some ⟨false, 0, 0⟩
  | c :: cs =>
    if c == '+' || c == '-' then do
      let (hours, cs) ← field? 1 2 cs
      let (minutes, cs) ← if cs.isEmpty then some ([], []) else after? ':' cs >>= field? 2 2
      if cs.isEmpty then
        some ⟨c == '-', Decimal.ofDigits hours, Decimal.ofDigits minutes⟩
      else none
    else none
  | [] => none

/-- A time of day: hours, minutes, seconds, fractions and zone. -/
def time? (cs : List Char) : Option WrittenTime := do
  let (hour, cs) ← field? 1 2 cs
  let (minute, cs) ← after? ':' cs >>= field? 2 2
  let (second, cs) ← after? ':' cs >>= field? 2 2
  let (fraction, cs) := match cs with
    | '.' :: more => (more.takeWhile Decimal.isDigit, more.dropWhile Decimal.isDigit)
    | _ => ([], cs)
  let zone ← if cs.isEmpty then some none else (zone? (cs.dropWhile isSpace)).map some
  return ⟨Decimal.ofDigits hour, Decimal.ofDigits minute, Decimal.ofDigits second, fraction, zone⟩

/-- What separates a date from a time of day: the letter `T`, or blanks. -/
def afterDate? : List Char → Option (List Char)
  | [] => none
  | c :: cs =>
    if c == 'T' || c == 't' then some cs
    else if isSpace c then some (cs.dropWhile isSpace)
    else none

/-- Reads a date, with or without a time of day. -/
def writtenDate? (cs : List Char) : Option WrittenDate := do
  let (year, cs) ← field? 4 4 cs
  let (month, cs) ← after? '-' cs >>= field? 1 2
  let (day, cs) ← after? '-' cs >>= field? 1 2
  let time ← if cs.isEmpty then some none else (afterDate? cs >>= time?).map some
  return ⟨Decimal.ofDigits year, Decimal.ofDigits month, Decimal.ofDigits day,
    month.length == 2 && day.length == 2, time⟩

/-- Whether the text reads as a date or time without saying so. A date alone has all its digits. -/
def isDate (cs : List Char) : Bool :=
  (writtenDate? cs).any fun d => d.full || d.time.isSome

/-- By how many minutes a zone is ahead of universal time; it is less than a day. -/
def Zone.ahead? (z : Zone) : Option Int :=
  let size := z.hours * 60 + z.minutes
  if size < 1440 then some (if z.behind then -size else size) else none

/-- The millionths of a second in a fraction; further digits are cut off. -/
def micros (fraction : List Char) : Nat :=
  Decimal.ofDigits (fraction.take 6 ++ List.replicate (6 - fraction.length) '0')

/-- The date or timestamp that is written, if there is one. -/
def WrittenDate.scalar? (d : WrittenDate) : Option Scalar := do
  match d.time with
  | none => (Calendar.date? d.year d.month d.day).map .date
  | some t =>
    let clock ←
      Calendar.instant? d.year d.month d.day t.hour t.minute t.second (micros t.fraction)
    match t.zone with
    | none => return .timestamp ⟨clock, none⟩
    | some zone => return .timestamp ⟨clock, some (← zone.ahead?)⟩

end SecretVault.Yaml
