import FeedDesk.Json.Basic
import FeedDesk.Language.Basic
import FeedDesk.Lexicon.Terms
import FeedDesk.Number.Reading
import FeedDesk.Report.Label
import FeedDesk.Text.Blank

namespace FeedDesk

/-!
Reports. A list of rows becomes a heading, an empty line, and a numbered line for each row with
the fragments of its known columns in a fixed order. Texts that are blank and values of other
kinds than text and number are left out, as are prices and caps of zero where zero means unknown.
The Arabic report is the English one, with regions and categories already in Arabic, after its
fixed words have been translated.
-/

namespace Report

/-- The text of a value: a text that is not blank, or a number as JSON writes it. -/
def textOf? : Json → Option Text
  | .string value => if value.isBlank then none else some value
  | .integer value => some (Text.ofInt value)
  | .real value => some (Json.realText value)
  | _ => none

/-- The number of a value: a number, or a text that reads as one once trimmed. -/
def numberOf? : Json → Option Binary64
  | .string value => Binary64.ofText? value.trim
  | value => value.real?

def text? (row : Row) (column : Text) : Option Text :=
  (row.value? column).bind textOf?

def number? (row : Row) (column : Text) : Option Binary64 :=
  (row.value? column).bind numberOf?

def nonzero? (row : Row) (column : Text) : Option Binary64 :=
  (number? row column).filter fun value => !value.isZero

/-- A part of a row's line. -/
inductive Fragment
  | verbatim (text : Text)
  | region (name : Text)
  | cost (currency : Text) (amount : Binary64)
  | category (name : Text)
  | labelled (label : Label) (value : Text)
  deriving DecidableEq

/-- The text of a fragment, given the wording of labels, unit, regions and categories. -/
def Fragment.text (labels : Label → Text) (unit : Text) (regions categories : Text → Text) :
    Fragment → Text
  | verbatim text => text
  | region name => "(" ++ regions name ++ ")"
  | cost currency amount => "- " ++ currency ++ " " ++ amount.priceText ++ unit
  | category name => "[" ++ categories name ++ "]"
  | labelled label value => labels label ++ ": " ++ value

/-- The fragments of a row. Prices are given in the row's currency, or in dollars. -/
def fragments (row : Row) : List Fragment :=
  let currency := (text? row "cost_currency").getD "USD"
  let verbatim (column : Text) := (text? row column).map Fragment.verbatim
  let labelled (label : Label) (value : Option Text) := value.map (Fragment.labelled label)
  List.filterMap id [
    verbatim "month",
    verbatim "supplier",
    verbatim "product_name",
    (text? row "supplier_country").map Fragment.region,
    (nonzero? row "cost_per_kg").map (Fragment.cost currency),
    labelled .average ((number? row "avg_price").map fun price =>
      currency ++ " " ++ price.priceText),
    labelled .least ((number? row "min_price").map Binary64.priceText),
    labelled .greatest ((number? row "max_price").map Binary64.priceText),
    (text? row "type").map Fragment.category,
    labelled .species (text? row "species"),
    labelled .feedCap ((nonzero? row "max_perc_feed").map Binary64.capText),
    labelled .concentrateCap ((nonzero? row "max_perc_conc").map Binary64.capText),
    labelled .email (text? row "supplier_email"),
    labelled .phone (text? row "supplier_phone")]

/-- The name of a region in the language of the report. -/
def localRegion (language : Language) (name : Text) : Text :=
  match language with
  | .english => name
  | .arabic => (Lexicon.regions.toArabic? name).getD name

/-- The name of a category in the language of the report. -/
def localCategory (language : Language) (name : Text) : Text :=
  match language with
  | .english => name
  | .arabic => (Lexicon.products.toArabic? name).getD name

def heading (title : Text) (language : Language) : Text :=
  let title := (title.trim.trimEndBy (· == ':')).trim
  let title : Text := if title.isEmpty then "Results" else title
  match language with
  | .english => title
  | .arabic => (headings.lookup title).getD title

/-- The line of a row under its number, with English labels. -/
def line (language : Language) (number : Nat) (row : Row) : Text :=
  Text.ofNat number ++ ". " ++
    Text.joined " " ((fragments row).map
      (Fragment.text Label.english englishUnit (localRegion language) (localCategory language)))

/-- The lines of rows, numbered from the given number. -/
def numbered (language : Language) : (number : Nat) → List Row → List Text
  | _, [] => []
  | number, row :: rows => line language number row :: numbered language (number + 1) rows

/-- The report with English labels. -/
def draft (rows : List Row) (title : Text) (language : Language) : Text :=
  Text.joined "\n" ((heading title language ++ ":") :: [] :: numbered language 1 rows)

def noResults : Language → Text
  | .english => "No results found"
  | .arabic => "لم يتم العثور على نتائج"

def databaseError (language : Language) (error : Text) : Text :=
  match language with
  | .english => "Database error: " ++ error
  | .arabic => "خطأ في قاعدة البيانات: " ++ error

def processingError (language : Language) (error : Text) : Text :=
  match language with
  | .english => "Error processing query: " ++ error
  | .arabic => "حدث خطأ: " ++ error

def render (rows : List Row) (title : Text) (language : Language) : Text :=
  if rows.isEmpty then noResults language
  else match language with
    | .english => draft rows title language
    | .arabic => translate (draft rows title language)

end Report
end FeedDesk
