import FeedDesk.Text.Basic

namespace FeedDesk

/-!
Pattern matching of texts. In a pattern `%` stands for any characters, `_` for one character, and
the escape character, where there is one, makes the next character stand for itself. Letters of
the basic alphabet match in either case and all others only themselves. A text ends at its first
null character, in patterns too.
-/

namespace Like

/-- A part of a pattern. -/
inductive Part
  | anything
  | oneChar
  | exactly (char : Char)
  deriving DecidableEq

/-- The parts of a pattern; there are none when the escape character ends it. -/
def parts? (escape : Option Char) : Text → Option (List Part)
  | [] => some []
  | char :: pattern =>
    if escape = some char then
      match pattern with
      | [] => none
      | escaped :: pattern => (parts? escape pattern).map (.exactly escaped :: ·)
    else
      let part : Part :=
        if char = '%' then .anything else if char = '_' then .oneChar else .exactly char
      (parts? escape pattern).map (part :: ·)

/-- The test holds for some end of the text. -/
def anyEnd (test : Text → Bool) : Text → Bool
  | [] => test []
  | char :: text => test (char :: text) || anyEnd test text

def sameLetter (left right : Char) : Bool :=
  Text.asciiLowerChar left == Text.asciiLowerChar right

def matchParts : List Part → Text → Bool
  | [], text => text.isEmpty
  | .anything :: parts, text => anyEnd (matchParts parts) text
  | .oneChar :: _, [] => false
  | .oneChar :: parts, _ :: text => matchParts parts text
  | .exactly _ :: _, [] => false
  | .exactly char :: parts, other :: text => sameLetter char other && matchParts parts text

def untilNull (text : Text) : Text :=
  text.takeWhile (· != '\x00')

/-- The text matches the pattern. -/
def holds (escape : Option Char) (pattern text : Text) : Bool :=
  match parts? escape (untilNull pattern) with
  | none => false
  | some parts => matchParts parts (untilNull text)

/-- A pattern of more bytes than this is refused. -/
def patternLimit : Nat := 50000

end Like
end FeedDesk
