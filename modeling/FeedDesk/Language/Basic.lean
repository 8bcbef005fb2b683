import FeedDesk.Text.Blank

namespace FeedDesk

/-!
The two languages in which a question may be asked and answered. Languages are named by short
codes or by their English names, in any case and with blanks around them.
-/

inductive Language
  | arabic
  | english
  deriving DecidableEq

namespace Language

def code : Language → Text
  | arabic => "ar"
  | english => "en"

def ofCode? (code : Text) : Option Language :=
  let code := code.trim.asciiLower
  if code = "ar" || code = "arabic" then some arabic
  else if code = "en" || code = "english" then some english
  else none

end Language
end FeedDesk
