import FeedDesk.Text.Basic
import FeedDesk.Text.Invisible

namespace FeedDesk
namespace Text

/-!
A text between double quotes in which everything that could mislead a reader is escaped: quotes,
backslashes, line ends and the characters that cannot be seen.
-/

def escapedChar (char : Char) : Text :=
  match char with
  | '"' => ['\\', '"']
  | '\\' => ['\\', '\\']
  | '\n' => ['\\', 'n']
  | '\r' => ['\\', 'r']
  | '\t' => ['\\', 't']
  | '\x00' => ['\\', '0']
  | char =>
    if isInvisible char then '\\' :: 'u' :: '\x7b' :: (Nat.toDigits 16 char.toNat ++ ['\x7d'])
    else [char]

def escaped (text : Text) : Text :=
  '"' :: (text.flatMap escapedChar ++ ['"'])

end Text
end FeedDesk
