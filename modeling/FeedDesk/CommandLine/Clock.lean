import FeedDesk.Catalog.Month

namespace FeedDesk
namespace CommandLine

/-!
The time of an answer in universal time: the date, a `T`, the time of day with its fraction of a
second in three, six or nine places or none, and a `Z`.
-/

/-- The fraction of a second in as many groups of three places as it needs. -/
def fractionText (nanoseconds : Nat) : Text :=
  if nanoseconds = 0 then []
  else if nanoseconds % 1000000 = 0 then '.' :: Month.padded 3 (nanoseconds / 1000000)
  else if nanoseconds % 1000 = 0 then '.' :: Month.padded 6 (nanoseconds / 1000)
  else '.' :: Month.padded 9 nanoseconds

/-- The text of a moment that lies a number of nanoseconds after the beginning of 1970. -/
def timeText (moment : Nat) : Text :=
  let seconds := moment / 1000000000
  let (year, month, day) := Month.ofDay (seconds / 86400 : Nat)
  let clock := seconds % 86400
  Month.yearText year ++ '-' :: Month.padded 2 month.natAbs ++ '-' ::
    Month.padded 2 day.natAbs ++ 'T' :: Month.padded 2 (clock / 3600) ++ ':' ::
    Month.padded 2 (clock / 60 % 60) ++ ':' :: Month.padded 2 (clock % 60) ++
    fractionText (moment % 1000000000) ++ ['Z']

end CommandLine
end FeedDesk
