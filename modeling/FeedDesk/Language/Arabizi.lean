import FeedDesk.Language.Basic
import FeedDesk.Text.Lower

namespace FeedDesk
namespace Language

/-!
Arabizi is Arabic written in Latin letters, with digits for the sounds that Latin lacks. A text is
judged by its tokens: the runs of basic letters and digits of its lower case that hold a letter.
A token speaks for Arabic when it is one of the known words, or when it begins with a letter and
holds one of the sound digits. Without any known word the sound digits count for nothing, so a
product code never makes a question Arabic.
-/

namespace Arabizi

def knownWords : List Text := List.map String.toList [
  "shu", "shou", "esh", "eish", "wein", "fein", "kam", "mnein", "meen", "byebi3", "yebi3",
  "bibi3", "arkhas", "ar5as", "a7san", "ahsan", "wala", "3ala", "3an", "mawared", "mowared",
  "sha3eer", "shaeer", "tebn", "barseem", "bersim", "3alaf", "thura", "as3ar", "se3r", "sa3r",
  "mutawaset", "sama7t", "ya3ni", "7ala", "wa2t", "kwayes", "beddi", "biddi", "3ayez", "3awez"]

def isSoundDigit (char : Char) : Bool :=
  ("2356789" : Text).contains char

def isKnownWord (token : Text) : Bool :=
  knownWords.contains token

/-- The token begins with a letter and holds a sound digit; quantities begin with a digit. -/
def hasSoundDigit (token : Text) : Bool :=
  token.head?.any Text.isAsciiLetter && token.any isSoundDigit

/-- The tokens of a text in reading order. -/
def tokens (text : Text) : List Text :=
  (text.lower.splitBy fun char => !Text.isAsciiAlphanumeric char).filter fun token =>
    token.any Text.isAsciiLetter

/-- The number of speaking tokens that a verdict for Arabic needs. -/
def leastHits : Nat := 2

/-- The verdict over a list of tokens: there must be a known word, at least two speaking tokens,
and they must be at least two in five of all. Without tokens there is no verdict. -/
def judge (tokens : List Text) : Option Language :=
  if tokens.isEmpty then none
  else
    let words := tokens.countP isKnownWord
    let hits := tokens.countP fun token => isKnownWord token || hasSoundDigit token
    if words = 0 then some .english
    else if leastHits ≤ hits ∧ 2 * tokens.length ≤ 5 * hits then some .arabic
    else some .english

def identify (text : Text) : Option Language :=
  judge (tokens text)

end Arabizi
end Language
end FeedDesk
