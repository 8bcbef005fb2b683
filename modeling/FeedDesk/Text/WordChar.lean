import FeedDesk.Text.Alphabetic
import FeedDesk.Text.Digit
import FeedDesk.Text.Mark
import FeedDesk.Text.Numeric
import FeedDesk.Text.Basic

namespace FeedDesk
namespace Text

/-!
Two notions of a character that belongs to a word. The narrow one, letters and numbers of any
script, decides whether a name stands by itself in a question. The wide one is the class of word
characters of Unicode text segmentation for patterns: letters, marks, decimal digits, connectors
and the two join controls; a boundary lies where exactly one of two neighbours belongs to it.
-/

def isAlphanumeric (char : Char) : Bool :=
  isAlphabetic char || isNumeric char

def connectorRanges : Ranges := [
  (0x005F, 0x005F), (0x203F, 0x2040), (0x2054, 0x2054), (0xFE33, 0xFE34), (0xFE4D, 0xFE4F),
  (0xFF3F, 0xFF3F)]

/-- The character is connecting punctuation such as the underscore. -/
def isConnector (char : Char) : Bool :=
  connectorRanges.covers char.toNat

/-- The character is the zero-width joiner or the zero-width non-joiner. -/
def isJoinControl (char : Char) : Bool :=
  char.toNat == 0x200C || char.toNat == 0x200D

def isWordChar (char : Char) : Bool :=
  isAlphabetic char || isMark char || isDecimalDigit char || isConnector char ||
    isJoinControl char

/-- A word boundary lies between the two neighbours, either of which may be missing. -/
def isBoundary (before after : Option Char) : Bool :=
  before.any isWordChar != after.any isWordChar

/-- Neither neighbour is a letter or a number. -/
def standsAlone (before after : Option Char) : Bool :=
  !before.any isAlphanumeric && !after.any isAlphanumeric

/-- Looks for the word in the text that remains after `before`, passing over `skipped` characters
first. An occurrence attached to other letters is passed over as a whole. -/
def hasWordFrom (word : Text) : (skipped : Nat) → (before : Option Char) → Text → Bool
  | _, _, [] => false
  | skipped + 1, _, char :: text => hasWordFrom word skipped (some char) text
  | 0, before, char :: text =>
    match strip? word (char :: text) with
    | some rest =>
      standsAlone before rest.head? || hasWordFrom word (word.length - 1) (some char) text
    | none => hasWordFrom word 0 (some char) text

/-- The word stands by itself in the text: no letter or number touches it. -/
def hasWord (word text : Text) : Bool :=
  hasWordFrom word 0 none text

end Text
end FeedDesk
