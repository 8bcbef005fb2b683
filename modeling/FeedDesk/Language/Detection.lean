import FeedDesk.Language.Arabizi
import FeedDesk.Language.Script

namespace FeedDesk
namespace Language

/-!
The language of a question. One Arabic character decides for Arabic. A text without any may be
shown to an identifier, whose opinion counts only when it is Arabic: an identifier that fails or
has no opinion leaves the question English.
-/

/-- A second opinion on texts without Arabic script; it may fail or have no opinion. -/
abbrev Identifier := Text → Except Text (Option Language)

/-- The identifier for Arabic in Latin letters. -/
def Identifier.arabizi : Identifier :=
  fun text => .ok (Arabizi.identify text)

def detect (text : Text) (identifier : Option Identifier) : Language :=
  if text.any isArabicChar then .arabic
  else match identifier with
    | none => .english
    | some identify =>
      match identify text with
      | .ok (some .arabic) => .arabic
      | _ => .english

end Language
end FeedDesk
