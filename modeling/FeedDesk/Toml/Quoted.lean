import FeedDesk.Text.Basic

namespace FeedDesk
namespace Toml

/-!
Quoted texts of a configuration. There are four forms: between double quotes with escapes, or
between single quotes without any, and each on one line or, between three quotes, on several. The
writer takes the first form in which the text needs no escape, and escapes only what no form can
hold.
-/

def hexValue? (char : Char) : Option Nat :=
  if Text.isAsciiDigit char then some (char.toNat - 48)
  else if 'a' ≤ char && char ≤ 'f' then some (char.toNat - 87)
  else if 'A' ≤ char && char ≤ 'F' then some (char.toNat - 55)
  else none

/-- The value of digits in some base, all of which must be known. -/
def valueIn? (base : Nat) (digits : Text) : Option Nat :=
  digits.foldlM (fun value digit => (hexValue? digit).bind fun digit =>
    if digit < base then some (value * base + digit) else none) 0

/-- A character given by a number of digits, and what follows it. -/
def codePoint? (count : Nat) (text : Text) : Option (Char × Text) :=
  if text.length < count then none
  else (valueIn? 16 (text.take count)).bind fun code =>
    if code.isValidChar then some (Char.ofNat code, text.drop count) else none

/-- The character of an escape after its backslash, and what follows it. -/
def escaped? : Text → Option (Char × Text)
  | 'b' :: rest => some ('\x08', rest)
  | 't' :: rest => some ('\t', rest)
  | 'n' :: rest => some ('\n', rest)
  | 'f' :: rest => some ('\x0c', rest)
  | 'r' :: rest => some ('\r', rest)
  | '"' :: rest => some ('"', rest)
  | '\\' :: rest => some ('\\', rest)
  | 'u' :: rest => codePoint? 4 rest
  | 'U' :: rest => codePoint? 8 rest
  | _ => none

def isControl (char : Char) : Bool :=
  char.toNat < 0x20 || char.toNat == 0x7f

/-- The character may stand in a text, a comment or a literal as it is. -/
def isPlain (char : Char) : Bool :=
  char == '\t' || !isControl char

def isBlank (char : Char) : Bool :=
  char == ' ' || char == '\t'

/-- What follows a line end at the front of the text. -/
def newline? : Text → Option Text
  | '\n' :: rest => some rest
  | '\r' :: '\n' :: rest => some rest
  | _ => none

/-- The blanks and line ends at the front of a text are passed over. -/
def skipLines : (fuel : Nat) → Text → Text
  | 0, text => text
  | fuel + 1, text =>
    let text := text.dropWhile isBlank
    match newline? text with
    | some rest => skipLines fuel rest
    | none => text

/-- A text on one line with escapes, after its opening quote. -/
def basic? : (fuel : Nat) → Text → Option (Text × Text)
  | _, [] => none
  | _, '"' :: rest => some ([], rest)
  | 0, _ => none
  | fuel + 1, '\\' :: rest => do
    let (char, rest) ← escaped? rest
    let (chars, rest) ← basic? fuel rest
    return (char :: chars, rest)
  | fuel + 1, char :: rest =>
    if isPlain char then (basic? fuel rest).map fun (chars, rest) => (char :: chars, rest)
    else none

/-- A text on one line without escapes, after its opening quote. -/
def literal? : Text → Option (Text × Text)
  | [] => none
  | '\'' :: rest => some ([], rest)
  | char :: rest =>
    if isPlain char then (literal? rest).map fun (chars, rest) => (char :: chars, rest)
    else none

/-- The end of a text between three quotes: up to two more quotes belong to the text. -/
def closing? (quote : Char) (text : Text) : Option (Text × Text) :=
  let count := (text.takeWhile (· == quote)).length
  if count < 3 then none
  else
    let inner := min (count - 3) 2
    some (List.replicate inner quote, text.drop (inner + 3))

/-- A text on several lines with escapes. A backslash at the end of a line takes away the blanks
and line ends up to the next character. -/
def longBasic? : (fuel : Nat) → Text → Option (Text × Text)
  | _, [] => none
  | 0, _ => none
  | fuel + 1, '\\' :: rest =>
    match newline? (rest.dropWhile isBlank) with
    | some following => longBasic? fuel (skipLines following.length following)
    | none => do
      let (char, rest) ← escaped? rest
      let (chars, rest) ← longBasic? fuel rest
      return (char :: chars, rest)
  | fuel + 1, char :: rest =>
    match closing? '"' (char :: rest) with
    | some found => some found
    | none =>
      match newline? (char :: rest) with
      | some rest => (longBasic? fuel rest).map fun (chars, rest) => ('\n' :: chars, rest)
      | none =>
        if isPlain char then (longBasic? fuel rest).map fun (chars, rest) => (char :: chars, rest)
        else none

/-- A text on several lines without escapes. -/
def longLiteral? : (fuel : Nat) → Text → Option (Text × Text)
  | _, [] => none
  | 0, _ => none
  | fuel + 1, char :: rest =>
    match closing? '\'' (char :: rest) with
    | some found => some found
    | none =>
      match newline? (char :: rest) with
      | some rest => (longLiteral? fuel rest).map fun (chars, rest) => ('\n' :: chars, rest)
      | none =>
        if isPlain char then
          (longLiteral? fuel rest).map fun (chars, rest) => (char :: chars, rest)
        else none

/-- A line end right after the opening quotes is no part of the text. -/
def skipFirstNewline (text : Text) : Text :=
  (newline? text).getD text

/-- A quoted text on one line, and what follows it. -/
def line? : Text → Option (Text × Text)
  | '"' :: rest => basic? rest.length rest
  | '\'' :: rest => literal? rest
  | _ => none

/-- A quoted text in any form, and what follows it. -/
def quoted? : Text → Option (Text × Text)
  | '"' :: '"' :: '"' :: rest =>
    let rest := skipFirstNewline rest
    longBasic? (rest.length + 1) rest
  | '\'' :: '\'' :: '\'' :: rest =>
    let rest := skipFirstNewline rest
    longLiteral? (rest.length + 1) rest
  | text => line? text

def holdsChar (char : Char) (text : Text) : Bool :=
  text.any (· == char)

/-- The length of the longest run of a character. -/
def longestRun (char : Char) (text : Text) : Nat :=
  (text.foldl (fun (longest, current) other =>
    let current := if other == char then current + 1 else 0
    (max longest current, current)) (0, 0)).1

/-- The text holds control characters that only an escape can write. -/
def needsEscapes (text : Text) : Bool :=
  text.any fun char => isControl char && char != '\t' && char != '\n'

/-- A character of a text with escapes. -/
def writtenChar (char : Char) : Text :=
  match char with
  | '\x08' => ['\\', 'b']
  | '\t' => ['\\', 't']
  | '\x0c' => ['\\', 'f']
  | '\r' => ['\\', 'r']
  | '\\' => ['\\', '\\']
  | char =>
    if isControl char then
      '\\' :: 'u' :: ['0', '0', Nat.digitChar (char.toNat / 16),
        if char.toNat % 16 < 10 then Nat.digitChar (char.toNat % 16)
        else Char.ofNat (char.toNat % 16 + 55)]
    else [char]

/-- The characters of a text with escapes. Of quotes in a row, `allowed` stand as they are. -/
def writtenChars (several : Bool) (allowed : Nat) : (run : Nat) → Text → Text
  | _, [] => []
  | run, '"' :: text =>
    if run < allowed then '"' :: writtenChars several allowed (run + 1) text
    else '\\' :: '"' :: writtenChars several allowed 0 text
  | _, '\n' :: text =>
    (if several then ['\n'] else ['\\', 'n']) ++ writtenChars several allowed 0 text
  | _, char :: text => writtenChar char ++ writtenChars several allowed 0 text

def onLine (text : Text) : Text :=
  '"' :: (writtenChars false 0 0 text ++ ['"'])

/-- Between three quotes; a text with line ends begins on a line of its own. -/
def onLines (text : Text) : Text :=
  let first : Text := if holdsChar '\n' text then ['\n'] else []
  let quotes : Text := ['"', '"', '"']
  quotes ++ first ++ writtenChars true 2 0 text ++ quotes

def literal (text : Text) : Text :=
  '\'' :: (text ++ ['\''])

def literalLines (text : Text) : Text :=
  let first : Text := if holdsChar '\n' text then ['\n'] else []
  let quotes : Text := ['\'', '\'', '\'']
  quotes ++ first ++ text ++ quotes

/-- A text in the first form that holds it without escapes, or with escapes. -/
def written (text : Text) : Text :=
  let several := holdsChar '\n' text
  let escapes := needsEscapes text
  let plain := !escapes && !holdsChar '\\' text
  let doubles := longestRun '"' text
  let singles := longestRun '\'' text
  if plain && doubles == 0 && !several then onLine text
  else if !escapes && singles == 0 && !several then literal text
  else if plain && doubles ≤ 2 then onLines text
  else if !escapes && singles ≤ 2 then literalLines text
  else if several then onLines text
  else onLine text

end Toml
end FeedDesk
