import FeedDesk.Text.WordChar

namespace FeedDesk

/-!
The fixed words of a report: the labels in front of values, the unit of weight and the headings,
each in both languages. A finished English report is brought into Arabic by replacing its labels
where they stand at the beginning of a word and before a colon, and then the unit where it ends a
word.
-/

inductive Label
  | feedCap
  | concentrateCap
  | average
  | least
  | greatest
  | species
  | email
  | phone
  deriving DecidableEq

namespace Label

def all : List Label :=
  [feedCap, concentrateCap, average, least, greatest, species, email, phone]

def english : Label → Text
  | feedCap => "Max feed %"
  | concentrateCap => "Max conc %"
  | average => "Avg"
  | least => "Min"
  | greatest => "Max"
  | species => "Species"
  | email => "Email"
  | phone => "Phone"

def arabic : Label → Text
  | feedCap => "الحد الأقصى في العلف %"
  | concentrateCap => "الحد الأقصى في المركز %"
  | average => "المتوسط"
  | least => "الحد الأدنى"
  | greatest => "الحد الأقصى"
  | species => "الفصيلة"
  | email => "البريد الإلكتروني"
  | phone => "الهاتف"

/-- The label that stands here before a colon. -/
def here? (text : Text) : Option Label :=
  all.find? fun label => (label.english ++ ":").isPrefixOf text

end Label

namespace Report

def englishUnit : Text := "/kg"
def arabicUnit : Text := "/كجم"

/-- English headings with their Arabic ones. -/
def headings : List (Text × Text) := [
  ("Results", "النتائج"),
  ("Cheapest suppliers", "أرخص الموردين"),
  ("Average prices", "متوسط الأسعار"),
  ("Price trends", "اتجاهات الأسعار"),
  ("Best time to buy", "أفضل وقت للشراء"),
  ("Suppliers", "الموردين"),
  ("Products", "المنتجات"),
  ("Restrictions", "القيود")]

/-- Replaces the labels in the text that remains after `before`, passing over the characters of a
label that has been replaced. -/
def translateLabelsFrom : (skipped : Nat) → (before : Option Char) → Text → Text
  | _, _, [] => []
  | skipped + 1, _, char :: text => translateLabelsFrom skipped (some char) text
  | 0, before, char :: text =>
    let label := if Text.isBoundary before (some char) then Label.here? (char :: text) else none
    match label with
    | some label =>
      label.arabic ++ ':' :: translateLabelsFrom label.english.length (some char) text
    | none => char :: translateLabelsFrom 0 (some char) text

/-- Replaces the unit of weight in the text that remains. -/
def translateUnitFrom : (skipped : Nat) → Text → Text
  | _, [] => []
  | skipped + 1, _ :: text => translateUnitFrom skipped text
  | 0, char :: text =>
    match Text.strip? englishUnit (char :: text) with
    | some rest =>
      if Text.isBoundary englishUnit.getLast? rest.head? then
        arabicUnit ++ translateUnitFrom (englishUnit.length - 1) text
      else char :: translateUnitFrom 0 text
    | none => char :: translateUnitFrom 0 text

/-- Brings the fixed words of a finished English report into Arabic. -/
def translate (report : Text) : Text :=
  translateUnitFrom 0 (translateLabelsFrom 0 none report)

end Report
end FeedDesk
