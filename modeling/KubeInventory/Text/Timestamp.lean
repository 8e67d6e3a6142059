import KubeInventory.Text.Unsigned

/-! Points in time as RFC 3339 writes them, shown in UTC with whole seconds. -/

namespace KubeInventory

/-- A date of the Gregorian calendar, which is extended to all years. -/
structure Date where
  year : Int
  month : Nat
  day : Nat
  deriving DecidableEq, Repr

namespace Date

/-- The days from 1 March of year 0 to the date. Years are counted from March, so that a leap day is
the last of its year. -/
def dayNumber (d : Date) : Int :=
  let year := if d.month ≤ 2 then d.year - 1 else d.year
  let month := (d.month + 9) % 12
  365 * year + year / 4 - year / 100 + year / 400 + (153 * month + 2) / 5 + (d.day - 1 : Nat)

/-- The date that lies the given number of days after 1 March of year 0. -/
def ofDayNumber (n : Int) : Date :=
  let era := n / 146097
  let day := (n % 146097).toNat
  let year := (day - day / 1460 + day / 36524 - day / 146096) / 365
  let dayOfYear := day - (365 * year + year / 4 - year / 100)
  let month := (5 * dayOfYear + 2) / 153
  let calendarMonth := (month + 2) % 12 + 1
  { year := (year : Int) + era * 400 + (if calendarMonth ≤ 2 then 1 else 0)
    month := calendarMonth
    day := dayOfYear - (153 * month + 2) / 5 + 1 }

end Date

/-- A point in time: seconds since the start of the day on 1 March of year 0, and whether it lies in
a leap second after that. -/
structure Timestamp where
  seconds : Int
  isLeap : Bool
  deriving DecidableEq, Repr

namespace Timestamp

open KubeInventory.Text

/-- Reads exactly `count` digits. -/
def digits? (count : Nat) (cs : List Char) : Option (Nat × List Char) :=
  let taken := cs.take count
  if taken.length == count && taken.all isDigit then
    some (taken.foldl (fun n c => n * 10 + digitValue c) 0, cs.drop count)
  else none

def mark? (marks : List Char) : List Char → Option (List Char)
  | c :: rest => if marks.contains c then some rest else none
  | [] => none

/-- Passes over a fraction of a second, of which nothing is kept. -/
def skipFraction : List Char → List Char
  | '.' :: rest => rest.dropWhile isDigit
  | cs => cs

/-- The seconds by which local time is ahead of UTC. -/
def offset? : List Char → Option Int
  | ['Z'] => some 0
  | ['z'] => some 0
  | c :: rest => do
    guard (c == '+' || c == '-')
    let (hours, rest) ← digits? 2 rest
    let rest ← mark? [':'] rest
    let (minutes, rest) ← digits? 2 rest
    guard rest.isEmpty
    let size : Int := hours * 3600 + minutes * 60
    return if c == '-' then -size else size
  | [] => none

def ofText? (text : String) : Option Timestamp := do
  let cs := text.toList
  let (year, cs) ← digits? 4 cs
  let (month, cs) ← digits? 2 (← mark? ['-'] cs)
  let (day, cs) ← digits? 2 (← mark? ['-'] cs)
  let (hour, cs) ← digits? 2 (← mark? ['T', 't', ' '] cs)
  let (minute, cs) ← digits? 2 (← mark? [':'] cs)
  let (second, cs) ← digits? 2 (← mark? [':'] cs)
  let offset ← offset? (skipFraction cs)
  guard (1 ≤ month && month ≤ 12 && 1 ≤ day && day ≤ 31 && hour < 24 && minute < 60 && second ≤ 60)
  let clock : Nat := hour * 3600 + minute * 60 + min second 59
  let date : Date := ⟨year, month, day⟩
  return ⟨date.dayNumber * 86400 + clock - offset, second == 60⟩

/-- The last `width` digits of a number. -/
def padded (width n : Nat) : String :=
  let digits := Nat.toDigits 10 n
  String.ofList (List.replicate (width - digits.length) '0' ++ digits)

/-- Years of four digits stand alone, all others with their sign. -/
def yearText (year : Int) : String :=
  if 0 ≤ year && year ≤ 9999 then padded 4 year.toNat
  else (if year < 0 then "-" else "+") ++ padded 4 year.natAbs

def text (t : Timestamp) : String :=
  let date := Date.ofDayNumber (t.seconds / 86400)
  let clock := (t.seconds % 86400).toNat
  let second := clock % 60 + if t.isLeap then 1 else 0
  yearText date.year ++ "-" ++ padded 2 date.month ++ "-" ++ padded 2 date.day ++ "T" ++
    padded 2 (clock / 3600) ++ ":" ++ padded 2 (clock / 60 % 60) ++ ":" ++ padded 2 second ++ "Z"

end Timestamp

end KubeInventory
