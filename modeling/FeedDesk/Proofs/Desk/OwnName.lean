import FeedDesk.Proofs.Desk.Facets
import FeedDesk.Proofs.Text.Folding

namespace FeedDesk

/-!
# Finding a product under its own name

A search compares two lower cases.  What is searched for is put into the full
lower case, and the name of a product into the basic one.  A name that holds a
capital outside of the basic alphabet therefore hides from its own parts: the
part loses the capital and the name keeps it.

The two lower cases of one text are compared here character by character.  They
agree exactly where every capital is basic, and then they agree for every part
of the text as well.  Where they differ, the whole name is already a part that
is not found: lowering never makes a text shorter, so the full lower case of a
name stands in its basic lower case only if it is the same text.
-/

/-! ## The two lower cases of a text -/

namespace Text

/-- Every capital of the text is a basic letter: no character has a lower case
beyond the basic one. -/
def BasicCapitals (text : Text) : Prop :=
  ∀ char ∈ text, lowerOne char = [asciiLowerChar char]

instance (text : Text) : Decidable (BasicCapitals text) :=
  List.decidableBAll (fun char => lowerOne char = [asciiLowerChar char]) text

theorem BasicCapitals.of_infix {part text : Text} (basic : text.BasicCapitals) (inside : part <:+: text) :
    part.BasicCapitals :=
  fun char member => basic char (inside.subset member)

/-- The lower case of a character where it stands, against its basic lower case.
A sigma is no basic letter in either of its forms. -/
theorem lowerFrom_cons_of_basic {char : Char} (basic : lowerOne char = [asciiLowerChar char]) (casedBefore : Bool)
    (text : Text) : ∃ casedHere, lowerFrom casedBefore (char :: text) =
      asciiLowerChar char :: lowerFrom casedHere text := by
  unfold lowerOne at basic
  rw [lowerFrom]
  by_cases sigma : char = 'Σ'
  · rw [sigma] at basic
    exact absurd basic (by decide)
  · by_cases dotted : char = 'İ'
    · rw [dotted] at basic
      exact absurd basic (by decide)
    · rw [if_neg sigma, if_neg dotted] at basic
      rw [if_neg sigma, if_neg dotted, basic]
      exact ⟨_, rfl⟩

theorem lowerFrom_eq_asciiLower {text : Text} (basic : text.BasicCapitals) (casedBefore : Bool) :
    lowerFrom casedBefore text = text.asciiLower := by
  induction text generalizing casedBefore with
  | nil => rfl
  | cons char text inductionHypothesis =>
      rcases lowerFrom_cons_of_basic (basic char List.mem_cons_self) casedBefore text with ⟨casedHere, first⟩
      have rest : BasicCapitals text := fun later member => basic later (List.mem_cons_of_mem char member)
      rw [first, inductionHypothesis rest]
      rfl

/-- The first character of a lower case is the basic one only if this is its
lower case by itself. -/
theorem basic_of_lowerFrom_cons {char : Char} {text rest : Text} {casedBefore : Bool}
    (first : lowerFrom casedBefore (char :: text) = asciiLowerChar char :: rest) :
    lowerOne char = [asciiLowerChar char] ∧ ∃ casedHere, lowerFrom casedHere text = rest := by
  unfold lowerOne
  rw [lowerFrom] at first
  by_cases sigma : char = 'Σ'
  · rw [if_pos sigma, sigma] at first
    split at first
    · exact absurd (List.cons.inj first).1 (by decide)
    · exact absurd (List.cons.inj first).1 (by decide)
  · by_cases dotted : char = 'İ'
    · rw [if_neg sigma, if_pos dotted, dotted] at first
      exact absurd (List.cons.inj first).1 (by decide)
    · rw [if_neg sigma, if_neg dotted] at first
      rcases List.cons.inj first with ⟨same, later⟩
      rw [if_neg sigma, if_neg dotted, same]
      exact ⟨rfl, _, later⟩

theorem basicCapitals_of_lowerFrom_eq {text : Text} {casedBefore : Bool}
    (same : lowerFrom casedBefore text = text.asciiLower) : text.BasicCapitals := by
  induction text generalizing casedBefore with
  | nil => exact fun _ impossible => nomatch impossible
  | cons char text inductionHypothesis =>
      rcases basic_of_lowerFrom_cons same with ⟨basic, casedHere, rest⟩
      intro other member
      rcases List.mem_cons.mp member with rfl | later
      · exact basic
      · exact inductionHypothesis rest other later

theorem length_le_length_lowerFrom (casedBefore : Bool) (text : Text) :
    text.length ≤ (lowerFrom casedBefore text).length := by
  induction text generalizing casedBefore with
  | nil => exact Nat.le_refl _
  | cons char text inductionHypothesis =>
      have rest := inductionHypothesis (if isCaseIgnorable char then casedBefore else isCased char)
      rw [lowerFrom, List.length_append, List.length_cons]
      split
      · split <;> simp only [List.length_singleton] <;> omega
      · split <;> simp only [List.length_cons, List.length_nil] <;> omega

/-- A part of a text with basic capitals stands in the lowered text. -/
theorem BasicCapitals.lower_infix {part text : Text} (basic : text.BasicCapitals) (inside : part <:+: text) :
    part.lower <:+: text.asciiLower := by
  rw [lower, lowerFrom_eq_asciiLower (basic.of_infix inside)]
  exact inside.map asciiLowerChar

/-- The whole text stands in the lowered text only if its capitals are basic. -/
theorem basicCapitals_of_lower_infix {text : Text} (inside : text.lower <:+: text.asciiLower) :
    text.BasicCapitals := by
  have size : text.asciiLower.length ≤ text.lower.length := by
    rw [asciiLower, List.length_map]
    exact length_le_length_lowerFrom false text
  have same : lowerFrom false text = text.asciiLower := inside.eq_of_length_le size
  exact basicCapitals_of_lowerFrom_eq same

/-- A text that can be searched for mentions all its parts exactly if its
capitals are basic. -/
theorem mentions_parts_iff {text : Text} (searchable : text.Searchable) :
    (∀ part : Text, part ≠ [] → part.Searchable → part <:+: text → text.Mentions part) ↔ text.BasicCapitals := by
  have whole := Like.untilNull_eq_self searchable.free
  unfold Mentions
  rw [whole]
  constructor
  · intro mentioned
    by_cases empty : text = []
    · rw [empty]
      exact fun _ impossible => nomatch impossible
    · exact basicCapitals_of_lower_infix (mentioned text empty searchable (List.infix_refl text))
  · intro basic part _ _ inside
    exact basic.lower_infix inside

end Text

/-! ## What a search finds -/

namespace Criteria

variable {catalog : Catalog} {offer : Product} (limit : Option Nat)

theorem mem_found {criteria : Criteria} :
    offer ∈ criteria.found catalog ↔
      offer ∈ catalog.products ∧ offer.isActive = true ∧ criteria.Satisfied offer := by
  rw [found, List.mem_mergeSort, wanted, List.mem_filter, Bool.and_eq_true, decide_eq_true_eq]

theorem mem_found_product (offered : offer ∈ catalog.products) (active : offer.isActive = true) (part : Text) :
    offer ∈ found { product := some part, limit } catalog ↔ offer.name.Mentions part := by
  rw [mem_found]
  constructor
  · intro ⟨_, _, satisfied⟩
    exact satisfied.product part rfl
  · intro mentions
    refine ⟨offered, active, ?_⟩
    constructor
    case product =>
      intro value given
      cases given
      exact mentions
    all_goals exact fun _ impossible => nomatch impossible

theorem mem_found_supplier (offered : offer ∈ catalog.products) (active : offer.isActive = true) (part : Text) :
    offer ∈ found { supplier := some part, limit } catalog ↔ ∃ name ∈ offer.supplier, name.Mentions part := by
  rw [mem_found]
  constructor
  · intro ⟨_, _, satisfied⟩
    exact satisfied.supplier part rfl
  · intro mentions
    refine ⟨offered, active, ?_⟩
    constructor
    case supplier =>
      intro value given
      cases given
      exact mentions
    all_goals exact fun _ impossible => nomatch impossible

end Criteria

namespace Desk

/-- An active product is found by a part of a name exactly if the full lower
case of the part stands in the basic lower case of the product's name, or of its
supplier's name, up to the first null character.  So a product is found under
every part of its name exactly if all capitals of this name are basic, and the
same holds of the name of its supplier.  What is found is given as far as the
limit allows. -/
theorem found_under_parts_iff {desk : Desk Connection} (onCatalogs : desk.store = Connection.store)
    {session : Session Connection} (reachable : session.state.Reachable) {offer : Product}
    (offered : offer ∈ session.state.catalog.products) (active : offer.isActive = true) :
    (∀ criteria : Criteria, criteria.Searchable →
      desk.search session criteria =
        (.ok (((criteria.found session.state.catalog).take criteria.cap).map Product.row), session)) ∧
      (∀ part limit, offer ∈ Criteria.found { product := some part, limit } session.state.catalog ↔
        part.lower <:+: (Like.untilNull offer.name).asciiLower) ∧
      (∀ part limit, offer ∈ Criteria.found { supplier := some part, limit } session.state.catalog ↔
        ∃ name ∈ offer.supplier, part.lower <:+: (Like.untilNull name).asciiLower) ∧
      (offer.name.Searchable →
        ((∀ part : Text, part ≠ [] → part.Searchable → part <:+: offer.name →
          ∀ limit, offer ∈ Criteria.found { product := some part, limit } session.state.catalog) ↔
            offer.name.BasicCapitals)) ∧
      ∀ name ∈ offer.supplier, name.Searchable →
        ((∀ part : Text, part ≠ [] → part.Searchable → part <:+: name →
          ∀ limit, offer ∈ Criteria.found { supplier := some part, limit } session.state.catalog) ↔
            name.BasicCapitals) := by
  have byProduct := fun part limit => Criteria.mem_found_product limit offered active part
  have bySupplier := fun part limit => Criteria.mem_found_supplier limit offered active part
  refine ⟨?_, byProduct, bySupplier, ?_, ?_⟩
  · intro criteria searchable
    exact fetch_of_rows onCatalogs session (reachable.kept.rows_productSearch searchable)
  · intro searchable
    rw [← Text.mentions_parts_iff searchable]
    simp only [byProduct, forall_const]
  · intro name supplied searchable
    rw [← Text.mentions_parts_iff searchable]
    rw [Option.mem_def] at supplied
    simp only [bySupplier, supplied, Option.mem_def, Option.some.injEq, exists_eq_left', forall_const]

/-! A product and a supplier whose names hold a capital that is not basic, and a
product whose name holds the small letter. -/

def pastriesText : Text :=
  "\x7b\"products\":[\x7b\"product_name\":\"ÉCLAIR\",\"supplier\":\"Økofeed\"\x7d," ++
    "\x7b\"product_name\":\"éCLAIR 50%\"\x7d]\x7d"

def pastries : Fixture where
  products := [{ name := "ÉCLAIR", supplier := some "Økofeed" }, { name := "éCLAIR 50%" }]

def pastriesSession : Session Connection where
  state := (Connection.add {} pastries).2

theorem found_under_parts_iff_pastries :
    offersDesk.store = Connection.store ∧ pastriesSession.state.Reachable ∧
      ∃ offer ∈ pastriesSession.state.catalog.products, offer.isActive = true ∧ offer.name.Searchable ∧
        offer.id = 2 ∧ ∀ part : Text, part ≠ [] → part.Searchable → part <:+: offer.name →
          offer ∈ Criteria.found { product := some part } pastriesSession.state.catalog := by
  have read : Fixture.ofText? pastriesText = some pastries := by decide +kernel
  have reachable : pastriesSession.state.Reachable := .added read .opened
  have onCatalogs : offersDesk.store = Connection.store := rfl
  have known : ∃ offer ∈ pastriesSession.state.catalog.products, offer.isActive = true ∧
      ('\x00' ∉ offer.name ∧ (Pattern.containing offer.name).byteLength ≤ Like.patternLimit) ∧
        offer.id = 2 ∧ offer.name.BasicCapitals := by decide +kernel
  rcases known with ⟨offer, offered, active, ⟨free, short⟩, second, basic⟩
  have searchable : offer.name.Searchable := ⟨free, short⟩
  have found := (found_under_parts_iff onCatalogs reachable offered active).2.2.2.1 searchable
  refine ⟨onCatalogs, reachable, offer, offered, active, searchable, second, ?_⟩
  intro part nonempty asked inside
  exact found.mpr basic part nonempty asked inside none

/-- The names of the products in an answer. -/
def namesOf (rows : List Row) : List (Option Text) :=
  rows.map fun row => Graph.textCell row "product_name"

/-- The first product is found neither under its own name nor under that of its
supplier. -/
theorem own_name_not_found :
    offersDesk.store = Connection.store ∧ pastriesSession.state.Reachable ∧
      Text.Searchable "ÉCLAIR" ∧ Text.Searchable "Økofeed" ∧
      (∃ offer ∈ pastriesSession.state.catalog.products, offer.isActive = true ∧
        offer.name = "ÉCLAIR" ∧ offer.supplier = some (show Text from "Økofeed")) ∧
      (offersDesk.search pastriesSession { product := some "ÉCLAIR" }).1.toOption.map namesOf =
        some [some (show Text from "éCLAIR 50%")] ∧
      (offersDesk.search pastriesSession { supplier := some "Økofeed" }).1.toOption.map namesOf = some [] := by
  have read : Fixture.ofText? pastriesText = some pastries := by decide +kernel
  have offered : ∃ offer ∈ pastriesSession.state.catalog.products, offer.isActive = true ∧
      offer.name = "ÉCLAIR" ∧ offer.supplier = some (show Text from "Økofeed") := by decide +kernel
  have answered : (offersDesk.search pastriesSession { product := some "ÉCLAIR" }).1.toOption.map namesOf =
        some [some (show Text from "éCLAIR 50%")] ∧
      (offersDesk.search pastriesSession { supplier := some "Økofeed" }).1.toOption.map namesOf = some [] := by
    decide +kernel
  exact ⟨rfl, .added read .opened, ⟨by decide, by decide +kernel⟩, ⟨by decide, by decide +kernel⟩, offered, answered⟩

end Desk
end FeedDesk
