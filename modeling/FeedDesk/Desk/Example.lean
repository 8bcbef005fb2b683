import FeedDesk.Text.Basic

namespace FeedDesk

/-!
Questions to show what the desk can be asked, each in both languages.
-/

structure Example where
  category : Text
  english : Text
  arabic : Text
  deriving DecidableEq

namespace Example

def all : List Example := [
  ⟨"price", "Who is selling the cheapest Wheat Straw?", "من يبيع أرخص قش القمح؟"⟩,
  ⟨"average", "What is the average price of Barley in UAE?",
    "ما هو متوسط سعر الشعير في الإمارات؟"⟩,
  ⟨"supplier", "Which suppliers sell Alfalfa hay in Saudi Arabia?",
    "من يبيع تبن البرسيم في السعودية؟"⟩,
  ⟨"historical", "When is the best time to buy Corn?", "ما هو أفضل وقت لشراء الذرة؟"⟩,
  ⟨"list", "List all concentrates in Egypt", "قائمة بجميع المركزات في مصر"⟩,
  ⟨"restrictions", "What restrictions apply to Urea for cattle?",
    "ما هي قيود استخدام اليوريا للماشية؟"⟩]

end Example
end FeedDesk
