import SecretVault.Decimal.Reader

/-!
Dates and instants of the Gregorian calendar, extended to all years from 1 to 9999. An instant is a
count of microseconds since the start of year 1, so instants compare and subtract as whole numbers.
-/

namespace SecretVault

structure Date where
  year : Nat
  month : Nat
  day : Nat
  deriving DecidableEq

/-- Microseconds since the start of year 1. -/
abbrev Instant := Int

/-- A date with a time of day, as a clock shows it, and by how many minutes that clock is ahead of
universal time. One without a zone is not comparable with one that has a zone. -/
structure Timestamp where
  clock : Instant
  ahead : Option Int
  deriving DecidableEq

def Timestamp.universal (i : Instant) : Timestamp :=
  ⟨i, some 0⟩

namespace Calendar

def isLeap (year : Nat) : Bool :=
  year % 4 == 0 && (year % 100 ≠ 0 || year % 400 == 0)

/-- The number of days in a month; zero for a month that does not exist. -/
def daysInMonth (year month : Nat) : Nat :=
  match month with
  | 1 | 3 | 5 | 7 | 8 | 10 | 12 => 31
  | 4 | 6 | 9 | 11 => 30
  | 2 => if isLeap year then 29 else 28
  | _ => 0

def daysBeforeYear (year : Nat) : Nat :=
  let y := year - 1
  365 * y + y / 4 - y / 100 + y / 400

/-- The number of days of a year before the first day of a month. -/
def daysBeforeMonth (year month : Nat) : Nat :=
  (List.range month).foldl (fun days m => days + daysInMonth year m) 0

/-- The date, if the calendar has it. -/
def date? (year month day : Nat) : Option Date :=
  if 1 ≤ year && year ≤ 9999 && 1 ≤ day && day ≤ daysInMonth year month then
    some ⟨year, month, day⟩
  else none

/-- The number of days from the first day of year 1 to a date. -/
def dayNumber (d : Date) : Nat :=
  daysBeforeYear d.year + daysBeforeMonth d.year d.month + (d.day - 1)

/-- Goes through the months of a year with the days that are left. -/
def monthAndDay (year days : Nat) : Nat → Nat → Nat × Nat
  | 0, month => (month, days + 1)
  | fuel + 1, month =>
    let size := daysInMonth year month
    if days < size then (month, days + 1) else monthAndDay year (days - size) fuel (month + 1)

/-- The date that lies a number of days after the first day of year 1. A year has at least 365 days,
so the year is at most the quotient, and at most a few years too late. -/
def ofDayNumber (days : Nat) : Date :=
  let guess := days / 365 + 1
  let candidates := (List.range 30).map fun back => guess - back
  let year := (candidates.find? fun y => 1 ≤ y && daysBeforeYear y ≤ days).getD 1
  let (month, day) := monthAndDay year (days - daysBeforeYear year) 11 1
  ⟨year, month, day⟩

/-- Microseconds in a second. -/
def second : Int := 1000000

def minute : Int := 60 * second

def hour : Int := 60 * minute

def day : Int := 24 * hour

/-- The instant at which a clock shows a timestamp; without a zone, as if it showed universal time.
-/
def instantOf (t : Timestamp) : Instant :=
  t.clock - t.ahead.getD 0 * minute

/-- The first instant after year 9999. -/
def endOfTime : Instant := (daysBeforeYear 10000 : Int) * day

/-- The instant of a date and a time of day, if both exist. -/
def instant? (year month dayOfMonth hours minutes seconds micros : Nat) : Option Instant := do
  let d ← date? year month dayOfMonth
  if hours < 24 && minutes < 60 && seconds < 60 && micros < 1000000 then
    some (dayNumber d * day + hours * hour + minutes * minute + seconds * second + micros)
  else none

def dateText (d : Date) : List Char :=
  Decimal.padded 4 d.year ++ '-' :: Decimal.padded 2 d.month ++ '-' :: Decimal.padded 2 d.day

/-- The parts of an instant: date, hours, minutes, seconds and microseconds. -/
structure Parts where
  date : Date
  hours : Nat
  minutes : Nat
  seconds : Nat
  micros : Nat

def parts (i : Instant) : Parts where
  date := ofDayNumber (i / day).toNat
  hours := (i % day / hour).toNat
  minutes := (i % hour / minute).toNat
  seconds := (i % minute / second).toNat
  micros := (i % second).toNat

/-- By how much a zone is ahead of universal time: a sign, hours and minutes. -/
def zoneText (ahead : Int) : List Char :=
  (if ahead < 0 then '-' else '+') :: Decimal.padded 2 (ahead.natAbs / 60)
    ++ ':' :: Decimal.padded 2 (ahead.natAbs % 60)

/-- A timestamp as text, with the given character between date and time. Microseconds are shown if
there are any, and the zone if there is one. -/
def timestampText (separator : Char) (t : Timestamp) : List Char :=
  let p := parts t.clock
  dateText p.date ++ separator :: Decimal.padded 2 p.hours ++ ':' :: Decimal.padded 2 p.minutes
    ++ ':' :: Decimal.padded 2 p.seconds
    ++ (if p.micros == 0 then [] else '.' :: Decimal.padded 6 p.micros)
    ++ (t.ahead.map zoneText).getD []

def asciiDigit? (c : Char) : Option Nat :=
  if Decimal.isDigit c then some (c.toNat - 48) else none

/-- A month: `1` to `12`, with or without a leading zero. -/
def month? : List Char → Option Nat
  | [a] => do
    let m ← asciiDigit? a
    if 1 ≤ m then some m else none
  | [a, b] => do
    let tens ← asciiDigit? a
    let units ← asciiDigit? b
    if (tens == 1 && units ≤ 2) || (tens == 0 && 1 ≤ units) then some (10 * tens + units) else none
  | _ => none

/-- A day of the month: `1` to `31`, with or without a leading zero or blank. Units after `1` and
`2` may be digits of any script. -/
def dayOfMonth? : List Char → Option Nat
  | [a] => do
    let d ← asciiDigit? a
    if 1 ≤ d then some d else none
  | [a, b] => do
    let tens ← if a == ' ' then some 0 else asciiDigit? a
    let units ← Text.digit? b
    if tens == 1 || tens == 2 then some (10 * tens + units)
    else
      let units ← asciiDigit? b
      if (tens == 3 && units ≤ 1) || (tens == 0 && 1 ≤ units) then some (10 * tens + units)
      else none
  | _ => none

/-- An hour of the day: `0` to `23`, in one or two digits. -/
def hour? : List Char → Option Nat
  | [a] => Text.digit? a
  | [a, b] => do
    let tens ← asciiDigit? a
    let units ← Text.digit? b
    if tens ≤ 1 then some (10 * tens + units)
    else
      let units ← asciiDigit? b
      if tens == 2 && units ≤ 3 then some (10 * tens + units) else none
  | _ => none

/-- A minute, or a second, in one or two digits. -/
def sixtieth? : List Char → Option Nat
  | [a] => Text.digit? a
  | [a, b] => do
    let tens ← asciiDigit? a
    let units ← Text.digit? b
    if tens ≤ 5 then some (10 * tens + units) else none
  | _ => none

def upTo? (separator : Char → Bool) : List Char → Option (List Char × List Char)
  | [] => none
  | c :: cs =>
    if separator c then some ([], cs)
    else (upTo? separator cs).map fun (front, back) => (c :: front, back)

/-- Reads an instant in universal time: a year of four digits, all other fields of one or two, the
marks `T` and `Z` in either case, and nothing before or after. -/
def universal? : List Char → Option Instant
  | a :: b :: c :: d :: '-' :: cs => do
    let thousands ← Text.digit? a
    let hundreds ← Text.digit? b
    let tens ← Text.digit? c
    let units ← Text.digit? d
    let (monthText, cs) ← upTo? (· == '-') cs
    let (dayText, cs) ← upTo? (fun ch => ch == 'T' || ch == 't') cs
    let (hourText, cs) ← upTo? (· == ':') cs
    let (minuteText, cs) ← upTo? (· == ':') cs
    let (secondText, cs) ← upTo? (fun ch => ch == 'Z' || ch == 'z') cs
    let month ← month? monthText
    let dayOfMonth ← dayOfMonth? dayText
    let hours ← hour? hourText
    let minutes ← sixtieth? minuteText
    let seconds ← sixtieth? secondText
    if cs.isEmpty then
      instant? (1000 * thousands + 100 * hundreds + 10 * tens + units) month dayOfMonth hours
        minutes seconds 0
    else none
  | _ => none

example : (universal? "2028-02-29T1:2:3z".toList).map (fun i => String.ofList
    (timestampText 'T' (.universal i))) = some "2028-02-29T01:02:03+00:00" := by
  decide +kernel

end Calendar

end SecretVault
