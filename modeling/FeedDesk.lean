import FeedDesk.Catalog.Sample
import FeedDesk.Graph.Route
import FeedDesk.Main
import FeedDesk.Remote.Chat
import FeedDesk.Remote.Translator
import FeedDesk.Proofs.Lexicon.Scan
import FeedDesk.Proofs.Lexicon.Spelling
import FeedDesk.Proofs.Lexicon.Gloss
import FeedDesk.Proofs.Blocks
import FeedDesk.Proofs.Lexicon.Mark
import FeedDesk.Proofs.Lexicon.Completeness
import FeedDesk.Proofs.Text.Folding
import FeedDesk.Proofs.Text.Standing
import FeedDesk.Proofs.Lexicon.Occurrence
import FeedDesk.Proofs.Question.Product
import FeedDesk.Proofs.Question.Region
import FeedDesk.Proofs.Lexicon.Phrase
import FeedDesk.Proofs.Question.Purpose
import FeedDesk.Proofs.Text.Cutting
import FeedDesk.Proofs.Json.Quoted
import FeedDesk.Proofs.Json.TextMembers
import FeedDesk.Proofs.Json.Reading
import FeedDesk.Proofs.Oracle.Reading
import FeedDesk.Proofs.Oracle.Wrapping
import FeedDesk.Proofs.Text.Lowered
import FeedDesk.Proofs.Catalog.Containment
import FeedDesk.Proofs.Sorting
import FeedDesk.Proofs.Number.Rounding
import FeedDesk.Proofs.Number.Numbers
import FeedDesk.Proofs.Store.Reachable
import FeedDesk.Proofs.Catalog.Evaluation
import FeedDesk.Proofs.Catalog.CostOrder
import FeedDesk.Proofs.Catalog.Grouping
import FeedDesk.Proofs.Catalog.Tally
import FeedDesk.Proofs.Catalog.Facets
import FeedDesk.Proofs.Catalog.Import
import FeedDesk.Proofs.Catalog.Search
import FeedDesk.Proofs.Catalog.MonthlyPrices
import FeedDesk.Proofs.Report.Pass
import FeedDesk.Proofs.Report.Wording
import FeedDesk.Proofs.Report.Layout
import FeedDesk.Proofs.Report.Translation
import FeedDesk.Proofs.Desk.Exchange
import FeedDesk.Proofs.Desk.Coherence
import FeedDesk.Proofs.Desk.Advice
import FeedDesk.Proofs.Desk.ReportLanguage
import FeedDesk.Proofs.Desk.Facets
import FeedDesk.Proofs.Catalog.Cheapest
import FeedDesk.Proofs.Sql.Transaction
import FeedDesk.Proofs.Sql.Word
import FeedDesk.Proofs.Store.Interference
import FeedDesk.Proofs.Store.History
import FeedDesk.Proofs.Desk.Unaided
import FeedDesk.Proofs.Text.LetterCase
import FeedDesk.Proofs.Lexicon.LetterCase
import FeedDesk.Proofs.Desk.LetterCase
import FeedDesk.Proofs.Text.Placeholders
import FeedDesk.Proofs.Plan.Placeholders
import FeedDesk.Proofs.Number.Least
import FeedDesk.Proofs.Catalog.SupplierPrices
import FeedDesk.Proofs.Desk.Contact
import FeedDesk.Proofs.Desk.OwnName
import FeedDesk.Proofs.Catalog.Rules
import FeedDesk.Proofs.Number.Mean
import FeedDesk.Proofs.Number.Sum
import FeedDesk.Proofs.Catalog.AveragePrices
import FeedDesk.Proofs.Lexicon.Acceptance
import FeedDesk.Proofs.Lexicon.Rewriting
import FeedDesk.Proofs.Lexicon.Locality
import FeedDesk.Proofs.Lexicon.TableOrder
import FeedDesk.Proofs.Report.Lines
import FeedDesk.Proofs.First
import FeedDesk.Proofs.Lexicon.Mention
import FeedDesk.Proofs.Question.Naming
import FeedDesk.Proofs.Question.Priority
import FeedDesk.Proofs.Json.Outside
import FeedDesk.Proofs.Json.Inside
import FeedDesk.Proofs.Oracle.Choice
import FeedDesk.Proofs.Catalog.CountNames
import FeedDesk.Proofs.Language.Verdict
import FeedDesk.Proofs.Lexicon.Progress
import FeedDesk.Proofs.Plan.Shown
import FeedDesk.Proofs.Remote.Endpoint
import FeedDesk.Proofs.Store.Evaluation
