import Restaking.Decimal.Binary

/-!
# Calendar time

Seconds since the start of 1970 as a date and a time of day in the Gregorian calendar, with no leap
seconds. Years are counted from March, so that the day which some years lack comes last.
-/
namespace Restaking.Logging

structure Calendar where
  year : Int
  month : Nat
  day : Nat
  hour : Nat
  minute : Nat
  second : Nat
  deriving DecidableEq, Repr

namespace Calendar

/-- The date of a day, counted from the start of 1970. -/
def dateOfDay (n : Int) : Int × Nat × Nat :=
  let days := n + 719468
  let era := days.fdiv 146097
  let dayOfEra := (days.fmod 146097).toNat
  let yearOfEra :=
    (dayOfEra - dayOfEra / 1460 + dayOfEra / 36524 - dayOfEra / 146096) / 365
  let dayOfYear := dayOfEra - (365 * yearOfEra + yearOfEra / 4 - yearOfEra / 100)
  let marchMonth := (5 * dayOfYear + 2) / 153
  let day := dayOfYear - (153 * marchMonth + 2) / 5 + 1
  let month := if marchMonth < 10 then marchMonth + 3 else marchMonth - 9
  let year : Int := yearOfEra + era * 400
  (if month ≤ 2 then year + 1 else year, month, day)

/-- The calendar time of a second. -/
def ofSeconds (seconds : Int) : Calendar :=
  let (year, month, day) := dateOfDay (seconds.fdiv 86400)
  let time := (seconds.fmod 86400).toNat
  ⟨year, month, day, time / 3600, time / 60 % 60, time % 60⟩

/-- Digits with zeros in front up to a width. -/
def padded (width n : Nat) : String :=
  let digits := Nat.toDigits 10 n
  String.ofList (List.replicate (width - digits.length) '0' ++ digits)

/-- Date and time, with two digits each but for the year, which has as many as it needs. -/
def text (c : Calendar) : String :=
  toString c.year ++ "-" ++ padded 2 c.month ++ "-" ++ padded 2 c.day ++ " " ++ padded 2 c.hour ++ ":" ++
    padded 2 c.minute ++ ":" ++ padded 2 c.second

/-- The years that can be written. -/
def leastYear : Int := -Nat.pow 2 31 + 1900

def greatestYear : Int := Nat.pow 2 31 - 1

/-- The text of a second, unless its year is out of range. -/
def textOf? (seconds : Int) : Option String :=
  let c := ofSeconds seconds
  if leastYear ≤ c.year ∧ c.year ≤ greatestYear then some c.text else none

end Calendar

end Restaking.Logging
