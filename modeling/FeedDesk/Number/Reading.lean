import FeedDesk.Number.Binary64
import FeedDesk.Text.Basic

namespace FeedDesk
namespace Binary64

/-!
Reading a double from text: a sign, then digits with an optional point and an optional exponent,
or one of the words for infinity and for no number, in any case. Digits may be missing on one side
of the point but not on both. The result is the nearest double.
-/

def exponentOf? (text : Text) : Option Int :=
  let (negative, digits) := match text with
    | '-' :: digits => (true, digits)
    | '+' :: digits => (false, digits)
    | digits => (false, digits)
  if digits.isEmpty || !digits.all Text.isAsciiDigit then none
  else some (if negative then -(Text.digitsValue digits : Int) else Text.digitsValue digits)

/-- Reads digits with an optional point and exponent. -/
def ofUnsigned? (negative : Bool) (text : Text) : Option Binary64 :=
  let whole := text.takeWhile Text.isAsciiDigit
  let rest := text.dropWhile Text.isAsciiDigit
  let (places, rest) := match rest with
    | '.' :: rest => (rest.takeWhile Text.isAsciiDigit, rest.dropWhile Text.isAsciiDigit)
    | rest => ([], rest)
  let power : Option Int := match rest with
    | [] => some 0
    | mark :: rest => if mark == 'e' || mark == 'E' then exponentOf? rest else none
  if whole.isEmpty && places.isEmpty then none
  else power.map fun power =>
    ofDecimal negative (Text.digitsValue (whole ++ places)) (power - places.length)

def ofText? (text : Text) : Option Binary64 :=
  let (negative, text) := match text with
    | '-' :: text => (true, text)
    | '+' :: text => (false, text)
    | text => (false, text)
  let word := Text.asciiLower text
  if word = "inf" || word = "infinity" then some (infinity negative)
  else if word = "nan" then some nan
  else ofUnsigned? negative text

end Binary64
end FeedDesk
