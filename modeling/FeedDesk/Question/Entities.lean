import FeedDesk.Lexicon.Terms
import FeedDesk.Text.Lower
import FeedDesk.Text.WordChar

namespace FeedDesk

/-!
The product and the region a question is about. English names are looked for first, in the order
of their lists and without regard to case; if there is none, the longest Arabic form in the text
gives the English term. Region names must stand by themselves, because the short ones occur
inside other words.
-/

/-- A product or region that is not named constrains nothing. -/
structure Entities where
  product : Option Text
  region : Option Text
  deriving DecidableEq

namespace Entities

def product? (text : Text) : Option Text :=
  match Lexicon.productNames.find? fun name => Text.contains name text.lower with
  | some name => some name
  | none => Lexicon.products.mentioned? text

def region? (text : Text) : Option Text :=
  match Lexicon.regionNames.find? fun (name, _) => Text.hasWord name text.lower with
  | some (_, region) => some region
  | none => Lexicon.regions.mentioned? text

def ofText (text : Text) : Entities :=
  ⟨product? text, region? text⟩

/-- What a question asks for, in words. -/
def subject (entities : Entities) : Text :=
  entities.product.getD "products"

end Entities
end FeedDesk
