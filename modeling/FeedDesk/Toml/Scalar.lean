import FeedDesk.Number.Word
import FeedDesk.Toml.Basic
import FeedDesk.Toml.Moment
import FeedDesk.Toml.Quoted

namespace FeedDesk
namespace Toml

/-!
Bare values: truth values, whole numbers in four bases, other numbers, and moments. Digits may
have single underscores between them. Whole numbers must fit 64 bits.
-/

/-- Digits without the underscores that stand between them. -/
def digits? (isDigit : Char → Bool) (text : Text) : Option Text :=
  let groups := text.splitBy (· == '_')
  if groups.all fun group => !group.isEmpty && group.all isDigit then some groups.flatten else none

/-- Decimal digits; only a lone zero may begin with zero. -/
def wholeDigits? (text : Text) : Option Text :=
  match digits? Text.isAsciiDigit text with
  | some ('0' :: _ :: _) => none
  | digits => digits

/-- A sign, which may be missing; the result is whether it is a minus. -/
def signed : Text → Bool × Text
  | '-' :: text => (true, text)
  | '+' :: text => (false, text)
  | text => (false, text)

def fitting? (value : Int) : Option Toml :=
  if -(signedLimit : Int) ≤ value ∧ value < signedLimit then some (integer value) else none

def based? (base : Nat) (text : Text) : Option Toml :=
  (digits? (fun char => ((hexValue? char).any (· < base))) text).bind fun digits =>
    (valueIn? base digits).bind fun value => fitting? value

def integer? (text : Text) : Option Toml :=
  match text with
  | '0' :: 'x' :: digits => based? 16 digits
  | '0' :: 'o' :: digits => based? 8 digits
  | '0' :: 'b' :: digits => based? 2 digits
  | text =>
    let (negative, digits) := signed text
    (wholeDigits? digits).bind fun digits =>
      let value := Text.digitsValue digits
      fitting? (if negative then -(value : Int) else value)

/-- The exponent of a number, as written after its mark. -/
def power? (text : Text) : Option Int :=
  let (negative, digits) := signed text
  (digits? Text.isAsciiDigit digits).map fun digits =>
    let value := Text.digitsValue digits
    if negative then -(value : Int) else value

def real? (text : Text) : Option Toml :=
  let (negative, body) := signed text
  if body = "inf" then some (real (Binary64.infinity negative))
  else if body = "nan" then some (real Binary64.nan)
  else do
    let (mantissa, power) ← match body.span fun char => char != 'e' && char != 'E' with
      | (mantissa, []) => some (mantissa, (0 : Int))
      | (mantissa, _ :: power) => (power? power).map fun power => (mantissa, power)
    let (whole, places) ← match mantissa.span (· != '.') with
      | (whole, []) => some (whole, [])
      | (whole, _ :: places) => (digits? Text.isAsciiDigit places).map fun places => (whole, places)
    let whole ← wholeDigits? whole
    let value := Binary64.ofDecimal negative (Text.digitsValue (whole ++ places))
      (power - (places.length : Int))
    if value.isFinite then return real value else none

/-- The value of a bare word. -/
def bare? (text : Text) : Option Toml :=
  if text = "true" then some (boolean true)
  else if text = "false" then some (boolean false)
  else integer? text <|> real? text <|> (moment? text).map moment

/-- The character may belong to a bare value. -/
def isBare (char : Char) : Bool :=
  Text.isAsciiAlphanumeric char || ("+-.:_" : Text).elem char

/-- A bare value at the front of a text, and what follows it. A date may be followed by a blank
and a time. -/
def scalar? (text : Text) : Option (Toml × Text) :=
  let word := text.takeWhile isBare
  let rest := text.dropWhile isBare
  let joined : Option (Toml × Text) := match date? word, rest with
    | some (_, []), ' ' :: after =>
      let clock := after.takeWhile isBare
      if clock.head?.any Text.isAsciiDigit then
        (moment? (word ++ ' ' :: clock)).map fun written =>
          (moment written, after.dropWhile isBare)
      else none
    | _, _ => none
  joined <|> (bare? word).map fun value => (value, rest)

end Toml
end FeedDesk
