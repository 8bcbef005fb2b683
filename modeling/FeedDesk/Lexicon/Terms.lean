import FeedDesk.Lexicon.Vocabulary

namespace FeedDesk

/-!
The term tables of the desk. Products and regions are the names the catalog knows; phrases are
the wordings that carry the purpose of a question. Beside them stand the English names that are
looked for in a question: products from the specific to the general, and regions with the name
the catalog uses for them.
-/

namespace Lexicon

def productTerms : List Term := [
  ⟨"Alfalfa", ["برسيم", "البرسيم"]⟩,
  ⟨"Alfalfa hay", ["تبن البرسيم"]⟩,
  ⟨"Wheat Straw", ["قش القمح"]⟩,
  ⟨"Straw", ["قش"]⟩,
  ⟨"Wheat", ["القمح", "قمح"]⟩,
  ⟨"Barley", ["الشعير", "شعير"]⟩,
  ⟨"Corn", ["الذرة", "ذرة"]⟩,
  ⟨"Soybean", ["فول الصويا", "صويا"]⟩,
  ⟨"Oat", ["الشوفان", "شوفان"]⟩,
  ⟨"Oat Hay", ["تبن الشوفان"]⟩,
  ⟨"Wheat Bran", ["نخالة القمح"]⟩,
  ⟨"Bran", ["نخالة"]⟩,
  ⟨"Cotton Seed", ["بذور القطن"]⟩,
  ⟨"Cotton", ["قطن", "القطن"]⟩,
  ⟨"Molasses", ["دبس السكر", "دبس"]⟩,
  ⟨"Limestone", ["الحجر الجيري"]⟩,
  ⟨"Salt", ["الملح", "ملح"]⟩,
  ⟨"Urea", ["اليوريا"]⟩,
  ⟨"Feed", ["علف"]⟩,
  ⟨"Concentrate", ["علف مركز", "مركزات", "المركزات"]⟩,
  ⟨"Fodder", ["علف خشن"]⟩,
  ⟨"Additive", ["مضافات", "المضافات"]⟩]

def regionTerms : List Term := [
  ⟨"UAE", ["الإمارات", "الامارات", "دبي", "أبوظبي"]⟩,
  ⟨"Saudi Arabia", ["السعودية", "المملكة العربية السعودية"]⟩,
  ⟨"Egypt", ["مصر"]⟩,
  ⟨"Qatar", ["قطر"]⟩,
  ⟨"Bahrain", ["البحرين"]⟩,
  ⟨"Kuwait", ["الكويت"]⟩,
  ⟨"Oman", ["عمان"]⟩,
  ⟨"Jordan", ["الأردن", "الاردن"]⟩,
  ⟨"Morocco", ["المغرب"]⟩,
  ⟨"Tunisia", ["تونس"]⟩,
  ⟨"Algeria", ["الجزائر"]⟩,
  ⟨"Libya", ["ليبيا"]⟩]

def phraseTerms : List Term := [
  ⟨"who is selling", ["من يبيع", "من الذي يبيع"]⟩,
  ⟨"where can I find", ["أين أجد", "اين اجد"]⟩,
  ⟨"what is the price of", ["ما هو سعر", "ما سعر", "كم سعر"]⟩,
  ⟨"what is", ["ما هو"]⟩,
  ⟨"cheapest", ["أرخص", "الأرخص", "ارخص"]⟩,
  ⟨"most expensive", ["الأغلى"]⟩,
  ⟨"average price", ["متوسط السعر", "متوسط سعر"]⟩,
  ⟨"average", ["متوسط"]⟩,
  ⟨"best time", ["أفضل وقت", "افضل وقت"]⟩,
  ⟨"to buy", ["للشراء", "لشراء"]⟩,
  ⟨"supplier", ["المورد"]⟩,
  ⟨"suppliers", ["الموردين"]⟩,
  ⟨"in", ["في"]⟩,
  ⟨"from", ["من"]⟩,
  ⟨"what are", ["ما هي", "ماهي"]⟩,
  ⟨"show", ["أظهر", "اظهر"]⟩,
  ⟨"list", ["قائمة"]⟩,
  ⟨"prices", ["أسعار", "اسعار", "الأسعار"]⟩,
  ⟨"historical", ["تاريخي", "التاريخي"]⟩,
  ⟨"price trend", ["اتجاه الأسعار"]⟩,
  ⟨"restrictions", ["قيود", "القيود"]⟩,
  ⟨"limits", ["حدود"]⟩]

theorem productTerms_consistent : (Vocabulary.ofTerms productTerms).isOk = true := by
  decide +kernel

theorem regionTerms_consistent : (Vocabulary.ofTerms regionTerms).isOk = true := by
  decide +kernel

theorem phraseTerms_consistent : (Vocabulary.ofTerms phraseTerms).isOk = true := by
  decide +kernel

def products : Vocabulary :=
  Vocabulary.ofConsistent productTerms productTerms_consistent

def regions : Vocabulary :=
  Vocabulary.ofConsistent regionTerms regionTerms_consistent

def phrases : Vocabulary :=
  Vocabulary.ofConsistent phraseTerms phraseTerms_consistent

/-- English product names in lower case, a more specific name before the ones it contains. -/
def productNames : List Text := [
  "alfalfa hay", "alfalfa", "wheat straw", "wheat bran", "wheat grain", "barley flakes", "barley",
  "corn silage", "corn gluten", "corn", "soya bean meal", "soybean", "oat hay", "cotton seed",
  "beet pulp", "triticale", "molasses", "limestone", "salt", "urea", "maize"]

/-- English region names in lower case, each with the region of the catalog that it means. -/
def regionNames : List (Text × Text) := [
  ("uae", "UAE"), ("emirates", "UAE"), ("dubai", "UAE"), ("abu dhabi", "UAE"),
  ("saudi arabia", "Saudi Arabia"), ("saudi", "Saudi Arabia"), ("egypt", "Egypt"),
  ("qatar", "Qatar"), ("bahrain", "Bahrain"), ("kuwait", "Kuwait"), ("oman", "Oman"),
  ("jordan", "Jordan"), ("morocco", "Morocco"), ("tunisia", "Tunisia"), ("algeria", "Algeria"),
  ("libya", "Libya")]

end Lexicon
end FeedDesk
