import FeedDesk.Text.Basic
import FeedDesk.Text.Ranges

namespace FeedDesk
namespace Text

/-!
Blanks are the characters with the Unicode property `White_Space`. Trimming a text and asking
whether it is blank both use this class; formats with a blank set of their own (such as JSON)
name theirs where they are read.
-/

def blankRanges : Ranges := [
  (0x0009, 0x000D), (0x0020, 0x0020), (0x0085, 0x0085), (0x00A0, 0x00A0), (0x1680, 0x1680),
  (0x2000, 0x200A), (0x2028, 0x2029), (0x202F, 0x202F), (0x205F, 0x205F), (0x3000, 0x3000)]

/-- The character has the Unicode property `White_Space`. -/
def isBlankChar (char : Char) : Bool :=
  blankRanges.covers char.toNat

/-- The text without the blanks at its ends. -/
def trim (text : Text) : Text :=
  text.trimBy isBlankChar

/-- Nothing but blanks. -/
def isBlank (text : Text) : Bool :=
  text.all isBlankChar

end Text
end FeedDesk
