import FeedDesk.Number.Word
import FeedDesk.Text.Lower
import FeedDesk.Toml.Basic

namespace FeedDesk
namespace Toml

/-!
Configuration values are taken freely: a text may stand for a number or a truth value and the other
way round, words such as `on` and `no` are truth values in any case, and a number that is not whole
is rounded, a half going away from zero. Lists and tables stand for nothing else.
-/

def isYes (lowered : Text) : Bool :=
  lowered == "true" || lowered == "on" || lowered == "yes"

def isNo (lowered : Text) : Bool :=
  lowered == "false" || lowered == "off" || lowered == "no"

def asText? : Toml → Option Text
  | string value => some value
  | moment written => some written
  | boolean value => some (if value then "true" else "false")
  | integer value => some (Text.ofInt value)
  | real value => some value.plainText
  | array _ => none
  | table _ => none

def wordAsBoolean? (text : Text) : Option Bool :=
  let lowered := text.lower
  if isYes lowered || lowered == "1" then some true
  else if isNo lowered || lowered == "0" then some false
  else none

def asBoolean? : Toml → Option Bool
  | string value => wordAsBoolean? value
  | moment written => wordAsBoolean? written
  | boolean value => some value
  | integer value => some (value != 0)
  | real value => some (!value.isZero)
  | array _ => none
  | table _ => none

/-- Digits after a plus sign, which may be missing. -/
def digitsAsCount? (text : Text) : Option Nat :=
  let digits := match text with
    | '+' :: digits => digits
    | digits => digits
  if digits.isEmpty || !digits.all Text.isAsciiDigit then none else some (Text.digitsValue digits)

def wordAsCount? (text : Text) : Option Nat :=
  let lowered := text.lower
  if isYes lowered then some 1 else if isNo lowered then some 0 else digitsAsCount? text

/-- The whole number nearest to a double; it is zero below zero and ends at 64 bits. -/
def roundedCount (value : Binary64) : Nat :=
  let largest := wordLimit - 1
  if value.isNaN || value.negative then 0
  else if value.isInfinite then largest
  else min ((2 * value.fraction.1 + value.fraction.2) / (2 * value.fraction.2)) largest

/-- A whole number that is not negative and lies below a limit. -/
def asCount? (limit : Nat) (value : Toml) : Option Nat :=
  let count? := match value with
    | string value => wordAsCount? value
    | moment written => wordAsCount? written
    | boolean value => some (if value then 1 else 0)
    | integer value => if value < 0 then none else some value.toNat
    | real value => some (roundedCount value)
    | array _ => none
    | table _ => none
  count?.filter (· < limit)

end Toml
end FeedDesk
