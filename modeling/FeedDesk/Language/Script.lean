import FeedDesk.Text.Alphabetic
import FeedDesk.Text.Basic

namespace FeedDesk
namespace Language

/-!
The Arabic script is a fixed set of blocks of code points. Its letters are the alphabetic
characters among them, so the Arabic question mark and comma belong to the script but are no
letters and never join a word.
-/

def arabicBlocks : Ranges := [
  (0x0600, 0x06FF), (0x0750, 0x077F), (0x08A0, 0x08FF), (0xFB50, 0xFDFF), (0xFE70, 0xFEFF)]

def isArabicChar (char : Char) : Bool :=
  arabicBlocks.covers char.toNat

def isArabicLetter (char : Char) : Bool :=
  isArabicChar char && Text.isAlphabetic char

/-- Some Arabic letter is left in the text. -/
def hasArabicLetter (text : Text) : Bool :=
  text.any isArabicLetter

end Language
end FeedDesk
