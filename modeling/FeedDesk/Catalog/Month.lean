import FeedDesk.Text.Basic

namespace FeedDesk

/-!
The month of a moment. Moments are seconds since the beginning of 1970 in universal time, and the
calendar is the Gregorian one carried on in both directions. A month is written as four characters
for the year, the sign counted among them, and two digits for the month.
-/

namespace Month

/-- The first second that has a date, in the year -4713. -/
def firstMoment : Int := -210866760000

/-- The last second that has a date, the end of the year 9999. -/
def lastMoment : Int := 253402300799

/-- The year, the month and the day of the month of a day counted from the beginning of 1970. Years
begin in March for the length of the computation, so that a leap day ends a year. -/
def ofDay (day : Int) : Int × Int × Int :=
  let shifted := day + 719468
  let era := shifted.fdiv 146097
  let dayOfEra := shifted.fmod 146097
  let yearOfEra := (dayOfEra - dayOfEra / 1460 + dayOfEra / 36524 - dayOfEra / 146096) / 365
  let dayOfYear := dayOfEra - (365 * yearOfEra + yearOfEra / 4 - yearOfEra / 100)
  let fromMarch := (5 * dayOfYear + 2) / 153
  let month := if fromMarch < 10 then fromMarch + 3 else fromMarch - 9
  (yearOfEra + era * 400 + (if month ≤ 2 then 1 else 0), month,
    dayOfYear - (153 * fromMarch + 2) / 5 + 1)

/-- Digits with zeros in front up to a width. -/
def padded (width number : Nat) : Text :=
  let digits := Text.ofNat number
  List.replicate (width - digits.length) '0' ++ digits

def yearText (year : Int) : Text :=
  if year < 0 then '-' :: padded 3 year.natAbs else padded 4 year.natAbs

/-- The month of a moment, as long as the moment has a date. -/
def ofMoment? (moment : Int) : Option Text :=
  if firstMoment ≤ moment ∧ moment ≤ lastMoment then
    let (year, month, _) := ofDay (moment.fdiv 86400)
    some (yearText year ++ '-' :: padded 2 month.natAbs)
  else none

end Month
end FeedDesk
