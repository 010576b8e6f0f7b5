import ParkFusion.Instant

namespace ParkFusion.Instant

def isLeapYear (year : Int) : Bool :=
  year % 4 = 0 && (year % 100 ≠ 0 || year % 400 = 0)

def daysInMonth (year : Int) (month : Nat) : Nat :=
  if month = 2 then if isLeapYear year then 29 else 28
  else if month = 4 || month = 6 || month = 9 || month = 11 then 30
  else 31

/-- Days before the first of March of a year, counted from the first of March of the year 0. -/
def daysBeforeMarch (year : Int) : Int :=
  365 * year + year / 4 - year / 100 + year / 400

/-- Days from 1970-01-01 to a date of the Gregorian calendar, whose months are counted from March so
that a leap day ends its year. -/
def dayNumber (year : Int) (month day : Nat) : Int :=
  let fromMarch := (month + 9) % 12
  let year := if month ≤ 2 then year - 1 else year
  daysBeforeMarch year + ((153 * fromMarch + 2) / 5 : Nat) + day - 1 - 719468

/-- Year, month and day of the month. -/
def civil (day : Int) : Int × Nat × Nat :=
  let shifted := day + 719468
  let era := shifted / 146097
  let ofEra := (shifted % 146097).toNat
  let yearOfEra := (ofEra - ofEra / 1460 + ofEra / 36524 - ofEra / 146096) / 365
  let ofYear := ofEra - (365 * yearOfEra + yearOfEra / 4 - yearOfEra / 100)
  let fromMarch := (5 * ofYear + 2) / 153
  let month := (fromMarch + 2) % 12 + 1
  let year := yearOfEra + era * 400
  (if month ≤ 2 then year + 1 else year, month, ofYear - (153 * fromMarch + 2) / 5 + 1)

/-- The instant that a clock shows whose time runs `offset` seconds ahead. The second may be 60. -/
def ofClock? (year : Int) (month day hour minute second nano : Nat) (offset : Int) :
    Option Instant :=
  if month < 1 || 12 < month || day < 1 || daysInMonth year month < day then none
  else if h : hour < 24 ∧ minute < 60 ∧ second ≤ 60 ∧ nano < 1000000000 then
    let shown : Instant := {
      day := dayNumber year month day
      second := hour * 3600 + minute * 60 + min second 59
      nano := if second = 60 then nano + 1000000000 else nano
      second_lt := by omega
      nano_lt := by split <;> omega }
    some (shown.minusSeconds offset)
  else none

end ParkFusion.Instant
