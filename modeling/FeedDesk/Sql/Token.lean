import FeedDesk.Text.Blank

namespace FeedDesk
namespace Sql

/-!
The tokens of a statement, each with its place in bytes. Words are names and keywords alike;
a quote inside a quoted text is written twice.
-/

inductive Token
  | word (text : Text)
  | quoted (text : Text)
  | blob (bytes : List Nat)
  | number (text : Text)
  | placeholder (place : Nat)
  | symbol (char : Char)
  deriving DecidableEq

structure Placed where
  offset : Nat
  token : Token
  deriving DecidableEq

namespace Token

def isWordStart (char : Char) : Bool :=
  Text.isAsciiLetter char || char == '_' || 0x80 ≤ char.toNat

def isWordPart (char : Char) : Bool :=
  isWordStart char || Text.isAsciiDigit char || char == '$'

/-- A quoted text after its opening quote, and what follows it. -/
def quoted? : Text → Option (Text × Text)
  | [] => none
  | '\'' :: '\'' :: rest => (quoted? rest).map fun (text, rest) => ('\'' :: text, rest)
  | '\'' :: rest => some ([], rest)
  | char :: rest => (quoted? rest).map fun (text, rest) => (char :: text, rest)

def hexValue? (char : Char) : Option Nat :=
  if Text.isAsciiDigit char then some (char.toNat - 48)
  else
    let char := Text.asciiLowerChar char
    if 'a' ≤ char && char ≤ 'f' then some (char.toNat - 87) else none

def bytes? : Text → Option (List Nat)
  | [] => some []
  | [_] => none
  | high :: low :: rest => do
    let high ← hexValue? high
    let low ← hexValue? low
    let bytes ← bytes? rest
    return (high * 16 + low) :: bytes

/-- The digits of a number with an optional point and exponent, and what follows them. -/
def numeral (text : Text) : Text × Text :=
  let whole := text.takeWhile Text.isAsciiDigit
  let rest := text.dropWhile Text.isAsciiDigit
  let (places, rest) := match rest with
    | '.' :: rest => ('.' :: rest.takeWhile Text.isAsciiDigit, rest.dropWhile Text.isAsciiDigit)
    | rest => ([], rest)
  let (power, rest) := match rest with
    | mark :: rest =>
      if mark == 'e' || mark == 'E' then
        let (sign, digits) := match rest with
          | '-' :: digits => (['-'], digits)
          | '+' :: digits => ([], digits)
          | digits => ([], digits)
        if (digits.takeWhile Text.isAsciiDigit).isEmpty then ([], mark :: rest)
        else ('e' :: sign ++ digits.takeWhile Text.isAsciiDigit,
          digits.dropWhile Text.isAsciiDigit)
      else ([], mark :: rest)
    | [] => ([], [])
  (whole ++ places ++ power, rest)

/-- The first token of a text that does not begin with a blank, and what follows it. -/
def first? (char : Char) (text : Text) : Option (Token × Text) :=
  if char == '\'' then (quoted? text).map fun (value, rest) => (quoted value, rest)
  else if Text.isAsciiDigit char then
    let (digits, rest) := numeral (char :: text)
    some (.number digits, rest)
  else if char == '?' then
    some (placeholder (Text.digitsValue (text.takeWhile Text.isAsciiDigit)),
      text.dropWhile Text.isAsciiDigit)
  else if isWordStart char then
    let letters := char :: text.takeWhile isWordPart
    let rest := text.dropWhile isWordPart
    match letters, rest with
    | [letter], '\'' :: rest =>
      if letter == 'x' || letter == 'X' then do
        let (digits, rest) ← quoted? rest
        let bytes ← bytes? digits
        return (blob bytes, rest)
      else some (word letters, '\'' :: rest)
    | _, _ => some (word letters, rest)
  else some (symbol char, text)

/-- The tokens of a text from a place onward. -/
def all? : (fuel offset : Nat) → Text → Option (List Placed)
  | _, _, [] => some []
  | 0, _, _ :: _ => none
  | fuel + 1, offset, char :: text =>
    if Text.isBlankChar char then all? fuel (offset + char.utf8Size) text
    else do
      let (token, rest) ← first? char text
      let used := Text.byteLength (char :: text) - Text.byteLength rest
      let tokens ← all? fuel (offset + used) rest
      return ⟨offset, token⟩ :: tokens

/-- The tokens of a statement, unless a text or a blob in it is not closed. -/
def ofText? (text : Text) : Option (List Placed) :=
  all? text.length 0 text

end Token
end Sql
end FeedDesk
