import FeedDesk.Text.Basic

namespace FeedDesk
namespace Toml

/-!
Dates and times of day. A moment is a date, a time, or a date and a time with or without the
distance from universal time. It is read with its ranges checked and written in one form: a `T`
between date and time, seconds in two digits with at most nine places and no closing zeros.
-/

/-- Digits of a fixed number at the front of a text, and what follows them. -/
def fixedDigits? (count : Nat) (text : Text) : Option (Nat × Text) :=
  let digits := text.take count
  if digits.length = count ∧ digits.all Text.isAsciiDigit then
    some (Text.digitsValue digits, text.drop count)
  else none

def isLeapYear (year : Nat) : Bool :=
  year % 4 == 0 && (year % 100 != 0 || year % 400 == 0)

def daysIn (year month : Nat) : Nat :=
  if month = 2 then if isLeapYear year then 29 else 28
  else if month = 4 ∨ month = 6 ∨ month = 9 ∨ month = 11 then 30
  else 31

/-- A date, as it is written. -/
def date? (text : Text) : Option (Text × Text) := do
  let (year, rest) ← fixedDigits? 4 text
  let rest ← Text.strip? "-" rest
  let (month, rest) ← fixedDigits? 2 rest
  let rest ← Text.strip? "-" rest
  let (day, rest) ← fixedDigits? 2 rest
  if 1 ≤ month ∧ month ≤ 12 ∧ 1 ≤ day ∧ day ≤ daysIn year month then
    return (text.take 10, rest)
  else none

/-- The places of a second, as they are written. -/
def fraction? : Text → Option (Text × Text)
  | '.' :: rest =>
    let digits := rest.takeWhile Text.isAsciiDigit
    if digits.isEmpty then none
    else
      let kept := Text.trimEndBy (· == '0') (digits.take 9)
      some (if kept.isEmpty then [] else '.' :: kept, rest.dropWhile Text.isAsciiDigit)
  | rest => some ([], rest)

/-- A time of day, as it is written. -/
def clock? (text : Text) : Option (Text × Text) := do
  let (hour, rest) ← fixedDigits? 2 text
  let rest ← Text.strip? ":" rest
  let (minute, rest) ← fixedDigits? 2 rest
  let rest ← Text.strip? ":" rest
  let (second, rest) ← fixedDigits? 2 rest
  if hour ≤ 23 ∧ minute ≤ 59 ∧ second ≤ 60 then
    let (places, rest) ← fraction? rest
    return (text.take 8 ++ places, rest)
  else none

/-- The distance from universal time, as it is written; it may be missing. -/
def distance? : Text → Option Text
  | [] => some []
  | ['Z'] => some ['Z']
  | ['z'] => some ['Z']
  | sign :: rest => do
    let (hour, after) ← fixedDigits? 2 rest
    let after ← Text.strip? ":" after
    let (minute, after) ← fixedDigits? 2 after
    if (sign = '+' ∨ sign = '-') ∧ hour ≤ 23 ∧ minute ≤ 59 ∧ after = [] then
      return sign :: rest
    else none

/-- Reads a moment that makes up the whole text. -/
def moment? (text : Text) : Option Text :=
  match date? text with
  | some (date, []) => some date
  | some (date, mark :: rest) =>
    if mark = 'T' ∨ mark = 't' ∨ mark = ' ' then do
      let (clock, rest) ← clock? rest
      let distance ← distance? rest
      return date ++ 'T' :: clock ++ distance
    else none
  | none =>
    match clock? text with
    | some (clock, []) => some clock
    | _ => none

end Toml
end FeedDesk
