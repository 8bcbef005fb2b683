import FeedDesk.Language.Basic
import FeedDesk.Oracle.Suggestion
import FeedDesk.Service

namespace FeedDesk

/-!
Consulting an oracle. It is told once and for all how the catalog is laid out and what an answer
looks like, and for each question it is given the question and the language of the person asking.
A failure, silence beyond the time allowed, and a reply without a usable suggestion all come to
the same: there is no suggestion.
-/

/-- What an oracle is shown. -/
structure Prompt where
  system : Text
  user : Text
  deriving DecidableEq

inductive OracleReply
  | text (reply : Text)
  | failed (error : ErrorChain)
  /-- No reply within the time allowed. -/
  | silent

abbrev Oracle := Service Prompt OracleReply

namespace Oracle

def layout : Text := "Table: feed_products_sample
  id INTEGER PRIMARY KEY
  product_name TEXT (e.g. 'Alfalfa hay (mid-bloom)', 'Wheat Straw', 'Barley')
  product_code TEXT (historical price points contain 'HIST')
  name TEXT
  type TEXT (one of 'Fodder', 'Concentrate', 'Additive')
  cost_per_kg REAL
  cost_currency TEXT (e.g. 'AED', 'SAR', 'QAR', 'EGP', 'USD')
  supplier TEXT (NULL for standard reference products)
  supplier_country TEXT (e.g. 'UAE', 'Saudi Arabia', 'Egypt', 'Qatar')
  supplier_email TEXT
  supplier_phone TEXT
  supplier_address TEXT
  is_standard_product INTEGER (0 or 1)
  created_at INTEGER (Unix timestamp)
  is_active INTEGER (1 for current prices, 0 for historical)

Table: feed_product_restrictions
  id INTEGER PRIMARY KEY
  product_id INTEGER (references feed_products_sample.id)
  species TEXT (e.g. 'cattle', 'sheep', 'goat')
  sex TEXT
  min_age_months INTEGER
  max_age_months INTEGER
  breeding_cycle TEXT
  lactation_cycle TEXT
  production_focus TEXT (e.g. 'dairy', 'beef')
  is_eligible INTEGER
  max_perc_feed REAL
  max_perc_conc REAL
  is_active INTEGER"

def guidance : Text := "1. Return valid SQLite SQL.
2. Use LOWER(product_name) LIKE '%...%' for product names.
3. For current prices, filter by is_active = 1.
4. For historical data, filter by product_code LIKE '%HIST%'.
5. For cheapest or best price, ORDER BY cost_per_kg ASC.
6. For suppliers, filter supplier IS NOT NULL.
7. Use strftime('%Y-%m', created_at, 'unixepoch') for months.
8. Always add a LIMIT between 10 and 20 unless aggregating."

def workedExamples : Text :=
  "Question: Who is selling the cheapest Wheat Straw?\n" ++
  "SQL: SELECT supplier, supplier_country, cost_per_kg, cost_currency FROM feed_products_sample " ++
  "WHERE LOWER(product_name) LIKE '%wheat straw%' AND is_active = 1 AND supplier IS NOT NULL " ++
  "ORDER BY cost_per_kg ASC LIMIT 10\n\n" ++
  "Question: What is the average price of Barley?\n" ++
  "SQL: SELECT supplier_country, cost_currency, ROUND(AVG(cost_per_kg), 2) AS avg_price, " ++
  "COUNT(*) AS supplier_count FROM feed_products_sample " ++
  "WHERE LOWER(product_name) LIKE '%barley%' AND is_active = 1 GROUP BY supplier_country, cost_currency ORDER BY avg_price ASC\n\n" ++
  "Question: Which products have feeding restrictions for young cattle?\n" ++
  "SQL: SELECT p.product_name, r.species, r.max_age_months, r.max_perc_feed " ++
  "FROM feed_products_sample p JOIN feed_product_restrictions r ON p.id = r.product_id " ++
  "WHERE r.species = 'cattle' AND r.max_age_months <= 12 AND r.is_active = 1 LIMIT 20"

/-- What every oracle is told beforehand. -/
def preamble : Text :=
  "You convert questions about animal feed products in the Middle East and North Africa " ++
  "into SQLite queries.\n\n" ++
  "Schema:\n" ++ layout ++ "\n\n" ++
  "Rules:\n" ++ guidance ++ "\n\n" ++
  "Examples:\n" ++ workedExamples ++ "\n\n" ++
  "Return only a JSON object with the fields \"sql\", \"explanation\" and " ++
  "\"response_template\". Do not write anything before or after it."

def prompt (question : Text) (language : Language) : Prompt where
  system := preamble
  user :=
    "Convert this question to SQL: \"" ++ question ++ "\"\n" ++
    "The user's language is: " ++ language.code ++ "\n" ++
    "Return only the JSON object."

/-- The suggestion that a reply comes to. -/
def usable : OracleReply → Option Suggestion
  | .text reply => (Suggestion.ofReply reply).toOption
  | .failed _ => none
  | .silent => none

/-- The suggestion for a question, if there is one, and the prompts shown so far. -/
def consult (oracle : Option Oracle) (past : List Prompt) (question : Text) (language : Language) :
    Option Suggestion × List Prompt :=
  match oracle with
  | none => (none, past)
  | some oracle =>
    let prompt := prompt question language
    (usable (oracle.answer past prompt), past ++ [prompt])

end Oracle
end FeedDesk
