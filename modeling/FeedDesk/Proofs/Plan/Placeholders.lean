import FeedDesk.Plan.Lookup
import FeedDesk.Proofs.Text.Placeholders
import Mathlib.Data.List.Forall2

namespace FeedDesk

/-!
# What a statement binds, and where

The text of a plan is written without looking at the values of its conditions,
so plans that differ in their values have one text.  The values are bound to
numbered places instead.  A place is numbered by what has been bound before, in
the text and in the list of parameters alike; the two counts are compared here
with a third one, that of the conditions which carry a value.

Where the expressions of a plan hold no question mark, the placeholders of its
text are those of its conditions, each of them in the predicate of its own
condition.
-/

/-! ## Conditions -/

/-- A value that is bound, between the two parts of its predicate. -/
structure Binding where
  opening : Text
  value : Parameter
  closing : Text := []

namespace Filter

/-- Two conditions of one kind on one column. -/
inductive SameButForValue : Filter Text → Filter Text → Prop
  | contains (column value other : Text) : SameButForValue (.contains column value) (.contains column other)
  | equals (column value other : Text) : SameButForValue (.equals column value) (.equals column other)
  | marked (column marker other : Text) : SameButForValue (.marked column marker) (.marked column other)
  | flag (column : Text) : SameButForValue (.flag column) (.flag column)
  | notNull (column : Text) : SameButForValue (.notNull column) (.notNull column)
  | atLeast (column : Text) (value other : Binary64) :
      SameButForValue (.atLeast column value) (.atLeast column other)
  | atMost (column : Text) (value other : Binary64) :
      SameButForValue (.atMost column value) (.atMost column other)

/-- The column of a condition. -/
def subject {column : Type} : Filter column → column
  | .contains column _ => column
  | .equals column _ => column
  | .marked column _ => column
  | .flag column => column
  | .notNull column => column
  | .atLeast column _ => column
  | .atMost column _ => column

/-- The value that a condition carries, as it is to be bound, with the predicate
around it. -/
def binding? : Filter Text → Option Binding
  | .contains column value =>
    some ⟨"LOWER(" ++ column ++ ") LIKE ", .text ("%" ++ Pattern.escape value.lower ++ "%"), " ESCAPE '\\'"⟩
  | .equals column value => some ⟨column ++ " = ", .text value, []⟩
  | .marked column marker => some ⟨column ++ " LIKE ", .text ("%" ++ marker ++ "%"), []⟩
  | .flag _ => none
  | .notNull _ => none
  | .atLeast column value => some ⟨column ++ " >= ", .real value, []⟩
  | .atMost column value => some ⟨column ++ " <= ", .real value, []⟩

theorem parameter?_eq (filter : Filter Text) : filter.parameter? = filter.binding?.map Binding.value := by
  cases filter <;> simp [parameter?, binding?, Pattern.containing, Pattern.marking]

theorem condition_of_binding {filter : Filter Text} {binding : Binding}
    (binds : filter.binding? = some binding) (place : Nat) :
    filter.condition place = binding.opening ++ Text.placeholder place ++ binding.closing := by
  cases filter <;> cases binds <;> unfold condition Text.placeholder <;>
    simp only [List.append_assoc, List.append_nil] <;> rfl

theorem condition_eq_of_sameButForValue {filter other : Filter Text} (same : SameButForValue filter other)
    (place : Nat) : filter.condition place = other.condition place := by
  cases same <;> rfl

theorem unmarked_of_binding {filter : Filter Text} {binding : Binding}
    (binds : filter.binding? = some binding) (unmarked : Text.Unmarked filter.subject) :
    Text.Unmarked binding.opening ∧ Text.Unmarked binding.closing ∧ Text.Apart binding.closing := by
  have behind : ∀ {sign : Text}, Text.Unmarked sign → Text.Unmarked (filter.subject ++ sign) :=
    fun free => Text.unmarked_append.mpr ⟨unmarked, free⟩
  cases filter with
  | contains column value =>
      cases binds
      have escaping : Text.Unmarked " ESCAPE '\\'" := by decide
      refine ⟨?_, escaping, rfl⟩
      exact Text.unmarked_append.mpr ⟨Text.unmarked_append.mpr ⟨by decide, unmarked⟩, by decide⟩
  | flag column => cases binds
  | notNull column => cases binds
  | _ =>
      cases binds
      exact ⟨behind (by decide), List.not_mem_nil, rfl⟩

theorem unmarked_of_unbound {filter : Filter Text} (unbound : filter.binding? = none)
    (unmarked : Text.Unmarked filter.subject) (place : Nat) : Text.Unmarked (filter.condition place) := by
  cases filter with
  | flag column => exact Text.unmarked_append.mpr ⟨unmarked, by decide⟩
  | notNull column => exact Text.unmarked_append.mpr ⟨unmarked, by decide⟩
  | _ => cases unbound

/-- A condition has the placeholder of its place if it carries a value, and none
otherwise. -/
theorem placeholders_condition {filter : Filter Text} (unmarked : Text.Unmarked filter.subject) (place : Nat) :
    (filter.condition place).placeholders =
      (List.range' place filter.binding?.toList.length).map Text.placeholder := by
  cases binds : filter.binding? with
  | none => exact Text.placeholders_of_unmarked (unmarked_of_unbound binds unmarked place)
  | some binding =>
      obtain ⟨opening, closing, apart⟩ := unmarked_of_binding binds unmarked
      rw [condition_of_binding binds, List.append_assoc, Text.placeholders_append_of_unmarked opening,
        Text.placeholders_append _ apart, Text.placeholders_placeholder, Text.placeholders_of_unmarked closing]
      rfl

/-- The values of conditions, in order. -/
def bindings (filters : List (Filter Text)) : List Binding :=
  filters.filterMap binding?

theorem bindings_cons (filter : Filter Text) (filters : List (Filter Text)) :
    bindings (filter :: filters) = filter.binding?.toList ++ bindings filters := by
  unfold bindings
  rw [List.filterMap_cons]
  cases filter.binding? <;> rfl

theorem bindings_append (front back : List (Filter Text)) :
    bindings (front ++ back) = bindings front ++ bindings back :=
  List.filterMap_append

/-- The place of a condition is told by the values in front of it. -/
theorem conditions_cons (place : Nat) (filter : Filter Text) (filters : List (Filter Text)) :
    conditions place (filter :: filters) =
      filter.condition place :: conditions (place + filter.binding?.toList.length) filters := by
  rw [conditions, parameter?_eq, Option.isSome_map]
  cases filter.binding? <;> rfl

theorem conditions_append (place : Nat) (front back : List (Filter Text)) :
    conditions place (front ++ back) =
      conditions place front ++ conditions (place + (bindings front).length) back := by
  induction front generalizing place with
  | nil => rfl
  | cons filter front inductionHypothesis =>
      rw [List.cons_append, conditions_cons, conditions_cons, inductionHypothesis, bindings_cons,
        List.length_append, Nat.add_assoc, List.cons_append]

theorem placeholders_conditions (place : Nat) {filters : List (Filter Text)}
    (unmarked : ∀ filter ∈ filters, Text.Unmarked filter.subject) :
    (conditions place filters).flatMap Text.placeholders =
      (List.range' place (bindings filters).length).map Text.placeholder := by
  induction filters generalizing place with
  | nil => rfl
  | cons filter filters inductionHypothesis =>
      have here := placeholders_condition (unmarked filter List.mem_cons_self) place
      have later := inductionHypothesis (place + filter.binding?.toList.length)
        fun other listed => unmarked other (List.mem_cons_of_mem filter listed)
      rw [conditions_cons, List.flatMap_cons, here, later, bindings_cons, List.length_append,
        ← List.map_append, List.range'_append_1]

/-- Each value belongs to a condition, and the values before it to the conditions
before that one. -/
theorem exists_of_bindings_eq {filters : List (Filter Text)} {earlier later : List Binding} {binding : Binding}
    (split : bindings filters = earlier ++ binding :: later) :
    ∃ front filter back, filters = front ++ filter :: back ∧ bindings front = earlier ∧
      filter.binding? = some binding := by
  obtain ⟨front, rest, rfl, before, behind⟩ := List.filterMap_eq_append_iff.mp split
  obtain ⟨skipped, filter, back, rfl, unbound, binds, _⟩ := List.filterMap_eq_cons_iff.mp behind
  have none : bindings skipped = [] := List.filterMap_eq_nil_iff.mpr unbound
  refine ⟨front ++ skipped, filter, back, (List.append_assoc _ _ _).symm, ?_, binds⟩
  rw [bindings_append, none, List.append_nil]
  exact before

theorem conditions_eq_of_sameButForValue {filters others : List (Filter Text)}
    (same : List.Forall₂ SameButForValue filters others) (place : Nat) :
    conditions place filters = conditions place others := by
  induction same generalizing place with
  | nil => rfl
  | @cons filter other filters others here _ inductionHypothesis =>
      have carried : filter.parameter?.isSome = other.parameter?.isSome := by
        cases here <;> rfl
      rw [conditions, conditions, condition_eq_of_sameButForValue here, carried, inductionHypothesis]

end Filter

/-! ## Statements -/

namespace Plan

/-- Two plans that differ at most in the values of their conditions. -/
structure SameButForValues (plan other : WrittenPlan) : Prop where
  source : plan.source = other.source
  projection : plan.projection = other.projection
  filters : List.Forall₂ Filter.SameButForValue plan.filters other.filters
  grouping : plan.grouping = other.grouping
  ordering : plan.ordering = other.ordering
  limit : plan.limit = other.limit

/-- The expressions that a plan is written with. -/
def expressions (plan : WrittenPlan) : List Text :=
  plan.projection ++ plan.filters.map Filter.subject ++ plan.grouping ++ plan.ordering.map Prod.fst

/-- The values of a plan, in the order of its conditions. -/
def bindings (plan : WrittenPlan) : List Binding :=
  Filter.bindings plan.filters

theorem parameters_eq (plan : WrittenPlan) : plan.parameters = plan.bindings.map Binding.value := by
  unfold parameters bindings Filter.bindings
  rw [List.map_filterMap]
  exact congrArg (List.filterMap · plan.filters) (funext Filter.parameter?_eq)

/-- No value reaches the text. -/
theorem sql_eq_of_sameButForValues {plan other : WrittenPlan} (same : plan.SameButForValues other) :
    plan.sql = other.sql := by
  unfold sql
  rw [same.source, same.projection, same.grouping, same.ordering, same.limit,
    Filter.conditions_eq_of_sameButForValue same.filters]

/-! ### Clauses -/

section Clause

variable {keyword separator : Text}

theorem not_mem_clause {char : Char} (opens : char ∉ keyword) (between : char ∉ separator) {parts : List Text}
    (each : ∀ part ∈ parts, char ∉ part) : char ∉ clause keyword separator parts := by
  cases parts with
  | nil => exact List.not_mem_nil
  | cons part parts => exact List.not_mem_append opens (Text.not_mem_joined between each)

theorem placeholders_clause (opens : Text.Unmarked keyword) (between : Text.Unmarked separator)
    (apart : Text.Apart separator) (nonempty : separator ≠ []) (parts : List Text) :
    (clause keyword separator parts).placeholders = parts.flatMap Text.placeholders := by
  cases parts with
  | nil => rfl
  | cons part parts =>
      change (keyword ++ Text.joined separator (part :: parts)).placeholders = _
      rw [Text.placeholders_append_of_unmarked opens, Text.placeholders_joined between apart nonempty]

theorem clause_append_cons (front : List Text) (part : Text) (back : List Text) :
    clause keyword separator (front ++ part :: back) =
      clause keyword separator front ++ (if front.isEmpty then keyword else separator) ++ part ++
        back.flatMap (separator ++ ·) := by
  cases front with
  | nil =>
      change keyword ++ Text.joined separator (part :: back) = _
      rw [Text.joined_cons, ← List.append_assoc]
      rfl
  | cons first front =>
      change keyword ++ Text.joined separator (first :: (front ++ part :: back)) =
        keyword ++ Text.joined separator (first :: front) ++ separator ++ part ++ _
      rw [Text.joined_cons, Text.joined_cons, List.flatMap_append, List.flatMap_cons]
      simp only [List.append_assoc]

end Clause

/-! ### The text of a plan -/

/-- The text in front of the conditions. -/
def leading (plan : WrittenPlan) : Text :=
  "SELECT " ++ Text.joined ", " plan.projection ++ "\nFROM " ++ plan.source.sql

/-- The text behind the conditions. -/
def trailing (plan : WrittenPlan) : Text :=
  clause "\nGROUP BY " ", " plan.grouping ++
    clause "\nORDER BY " ", " (plan.ordering.map fun (key, direction) => key ++ " " ++ direction.sql) ++
    limitClause plan.limit

/-- The conditions in front of others. -/
def conditionsText (filters : List (Filter Text)) : Text :=
  clause "\nWHERE " "\n  AND " (Filter.conditions 1 filters)

theorem sql_eq (plan : WrittenPlan) :
    plan.sql = plan.leading ++ conditionsText plan.filters ++ plan.trailing := by
  unfold sql leading conditionsText trailing
  simp only [List.append_assoc]

theorem breaks_clause (keyword separator : Text) (parts : List Text) :
    Text.Breaks (clause ('\n' :: keyword) separator parts) := by
  cases parts with
  | nil => exact Or.inl rfl
  | cons part parts => exact Or.inr ⟨keyword ++ Text.joined separator (part :: parts), rfl⟩

theorem breaks_flatMap (separator : Text) (parts : List Text) :
    Text.Breaks (parts.flatMap (('\n' :: separator) ++ ·)) := by
  cases parts with
  | nil => exact Or.inl rfl
  | cons part parts => exact Or.inr ⟨_, rfl⟩

theorem breaks_trailing (plan : WrittenPlan) : Text.Breaks plan.trailing := by
  refine ((breaks_clause "GROUP BY " ", " _).append (breaks_clause "ORDER BY " ", " _)).append ?_
  cases plan.limit with
  | none => exact Or.inl rfl
  | some limit => exact Or.inr ⟨"LIMIT " ++ Text.ofNat limit, rfl⟩

/-- The expressions of a plan aside, what its text has around the conditions. -/
def wording : Text :=
  "SELECT , \nFROM \nGROUP BY \nORDER BY ASC DESC \nLIMIT " ++ Source.catalogWithRules.sql

section Free

variable {plan : WrittenPlan} {char : Char} (absent : char ∉ wording)
  (free : ∀ expression ∈ plan.expressions, char ∉ expression)

include free

theorem not_mem_subject : ∀ filter ∈ plan.filters, char ∉ filter.subject := by
  intro filter listed
  apply free
  unfold expressions
  simp only [List.mem_append]
  exact Or.inl (Or.inl (Or.inr (List.mem_map_of_mem listed)))

include absent

omit free in
theorem not_mem_of_subset_wording {text : Text} (within : text ⊆ wording) : char ∉ text :=
  fun member => absent (within member)

theorem not_mem_leading : char ∉ plan.leading := by
  have projection : char ∉ Text.joined ", " plan.projection := by
    refine Text.not_mem_joined (not_mem_of_subset_wording absent (by decide)) fun output listed => free output ?_
    unfold expressions
    simp only [List.mem_append]
    exact Or.inl (Or.inl (Or.inl listed))
  have source : plan.source.sql ⊆ wording := by
    cases plan.source with
    | catalog => decide
    | catalogWithRules => decide
  have opens : char ∉ String.toList "SELECT " := not_mem_of_subset_wording absent (by decide)
  have reads : char ∉ String.toList "\nFROM " := not_mem_of_subset_wording absent (by decide)
  unfold leading
  simp only [List.mem_append, not_or]
  exact ⟨⟨⟨opens, projection⟩, reads⟩, not_mem_of_subset_wording absent source⟩

theorem not_mem_trailing (sign : Text.isAsciiDigit char = false) : char ∉ plan.trailing := by
  have between : char ∉ String.toList ", " := not_mem_of_subset_wording absent (by decide)
  have grouping : char ∉ clause "\nGROUP BY " ", " plan.grouping := by
    refine not_mem_clause (not_mem_of_subset_wording absent (by decide)) between fun output listed => free output ?_
    unfold expressions
    simp only [List.mem_append]
    exact Or.inl (Or.inr listed)
  have ordering : char ∉ clause "\nORDER BY " ", "
      (plan.ordering.map fun (key, direction) => key ++ " " ++ direction.sql) := by
    refine not_mem_clause (not_mem_of_subset_wording absent (by decide)) between fun part written => ?_
    obtain ⟨⟨key, direction⟩, listed, rfl⟩ := List.mem_map.mp written
    have reference : char ∉ key := by
      apply free
      unfold expressions
      simp only [List.mem_append]
      exact Or.inr (List.mem_map_of_mem (f := Prod.fst) listed)
    have side : String.toList " " ++ direction.sql ⊆ wording := by
      cases direction with
      | ascending => decide
      | descending => decide
    dsimp only
    rw [List.append_assoc]
    exact List.not_mem_append reference (not_mem_of_subset_wording absent side)
  have limit : char ∉ limitClause plan.limit := by
    cases plan.limit with
    | none => exact List.not_mem_nil
    | some limit =>
        exact List.not_mem_append (not_mem_of_subset_wording absent (by decide)) (Text.not_mem_ofNat sign limit)
  unfold trailing
  simp only [List.mem_append, not_or]
  exact ⟨⟨grouping, ordering⟩, limit⟩

end Free

section Unmarked

variable {plan : WrittenPlan} (unmarked : ∀ expression ∈ plan.expressions, Text.Unmarked expression)

include unmarked

/-- The text up to some condition has the placeholders of the values before it. -/
theorem placeholders_conditionsText {filters : List (Filter Text)}
    (within : ∀ filter ∈ filters, filter ∈ plan.filters) :
    (plan.leading ++ conditionsText filters).placeholders =
      Text.firstPlaceholders (Filter.bindings filters).length := by
  have apart : Text.Apart "\n  AND " := rfl
  unfold conditionsText
  rw [Text.placeholders_append_of_unmarked (not_mem_leading (by decide) unmarked),
    placeholders_clause (by decide) (by decide) apart (by decide)]
  exact Filter.placeholders_conditions 1 fun filter listed => not_mem_subject unmarked filter (within filter listed)

theorem placeholders_sql : plan.sql.placeholders = Text.firstPlaceholders plan.bindings.length := by
  rw [sql_eq, Text.placeholders_append _ (breaks_trailing plan).apart,
    Text.placeholders_of_unmarked (not_mem_trailing (by decide) unmarked rfl), List.append_nil]
  exact placeholders_conditionsText unmarked fun _ listed => listed

end Unmarked

end Plan

/-- The predicate of a binding stands in the text as a condition of its own.  It
holds the placeholder of its place, and the placeholders of the places before it
stand in front. -/
def Binding.StandsIn (binding : Binding) (sql : Text) (before : Nat) : Prop :=
  ∃ front conjunction back,
    sql = front ++ conjunction ++
        (binding.opening ++ Text.placeholder (before + 1) ++ binding.closing) ++ back ∧
      front.placeholders = Text.firstPlaceholders before ∧
      (conjunction = String.toList "\nWHERE " ∨ conjunction = String.toList "\n  AND ") ∧
      Text.Breaks back

namespace Plan

theorem standsIn_sql {plan : WrittenPlan} (unmarked : ∀ expression ∈ plan.expressions, Text.Unmarked expression)
    {earlier later : List Binding} {binding : Binding}
    (split : plan.bindings = earlier ++ binding :: later) : binding.StandsIn plan.sql earlier.length := by
  obtain ⟨front, filter, back, filters, rfl, binds⟩ := Filter.exists_of_bindings_eq split
  obtain ⟨others, places⟩ : ∃ others, Filter.conditions 1 plan.filters =
      Filter.conditions 1 front ++ filter.condition ((Filter.bindings front).length + 1) :: others := by
    rw [filters, Filter.conditions_append, Filter.conditions_cons, Nat.add_comm 1]
    exact ⟨_, rfl⟩
  have text : plan.sql = plan.leading ++ conditionsText front ++
      (if (Filter.conditions 1 front).isEmpty then String.toList "\nWHERE " else String.toList "\n  AND ") ++
      (binding.opening ++ Text.placeholder ((Filter.bindings front).length + 1) ++ binding.closing) ++
      (others.flatMap (String.toList "\n  AND " ++ ·) ++ plan.trailing) := by
    rw [sql_eq, conditionsText, places, clause_append_cons, Filter.condition_of_binding binds]
    simp only [conditionsText, List.append_assoc]
  refine ⟨_, _, _, text, ?_, ?_, ?_⟩
  · refine placeholders_conditionsText unmarked fun other listed => ?_
    rw [filters]
    exact List.mem_append_left _ listed
  · by_cases first : (Filter.conditions 1 front).isEmpty = true
    · exact Or.inl (if_pos first)
    · exact Or.inr (if_neg first)
  · exact (breaks_flatMap "  AND " others).append (breaks_trailing plan)

/-! ### Plans over the catalog -/

/-- A character that columns and outputs are written with. -/
def isReferenceChar (char : Char) : Bool :=
  Text.isAsciiAlphanumeric char || (String.toList "_., ()*'%-").contains char

theorem all_columnReference (source : Source) (column : Column) :
    (column.reference source).all isReferenceChar = true := by
  rcases column with column | column <;> cases source <;> cases column <;> decide

theorem all_outputExpression (source : Source) (output : Output) :
    (output.expression source).all isReferenceChar = true := by
  cases output with
  | plain column => exact all_columnReference source column
  | count counted => cases source <;> cases counted <;> decide
  | _ => cases source <;> decide

theorem all_outputReference (source : Source) (output : Output) :
    (output.reference source).all isReferenceChar = true := by
  cases output with
  | plain column => exact all_columnReference source column
  | count counted => cases source <;> cases counted <;> decide
  | _ => cases source <;> decide

theorem all_written (plan : CatalogPlan) :
    ∀ expression ∈ plan.written.expressions, expression.all isReferenceChar = true := by
  intro expression listed
  unfold expressions written at listed
  simp only [List.mem_append, List.mem_map] at listed
  rcases listed with ((⟨output, _, rfl⟩ | ⟨_, ⟨filter, _, rfl⟩, rfl⟩) | ⟨output, _, rfl⟩) |
    ⟨_, ⟨⟨output, direction⟩, _, rfl⟩, rfl⟩
  · exact all_outputExpression plan.source output
  · cases filter <;> exact all_columnReference plan.source _
  · exact all_outputReference plan.source output
  · exact all_outputReference plan.source output

/-- What the desk writes for columns and outputs holds no character of another
kind, and so no question mark. -/
theorem not_mem_written {char : Char} (other : isReferenceChar char = false) (plan : CatalogPlan) :
    ∀ expression ∈ plan.written.expressions, char ∉ expression :=
  fun expression listed member =>
    Bool.eq_false_iff.mp other (List.all_eq_true.mp (all_written plan expression listed) char member)

/-- The values of a plan are kept out of its text and bound to its placeholders.
Plans that differ only in the values of their conditions have one text.  If the
expressions of a plan hold no question mark, then the placeholders of its text
are those of the first places, each once and in order, with as many places as
there are parameters.  The parameters are the values of the conditions that
carry one, in order, and each stands in the predicate of its own condition. -/
theorem values_bound_in_place (plan : WrittenPlan) :
    (∀ other, plan.SameButForValues other → plan.statement.sql = other.statement.sql) ∧
      ((∀ expression ∈ plan.expressions, Text.Unmarked expression) →
        plan.statement.sql.placeholders = Text.firstPlaceholders plan.statement.parameters.length ∧
        plan.statement.parameters = plan.bindings.map Binding.value ∧
        ∀ earlier binding later, plan.bindings = earlier ++ binding :: later →
          binding.StandsIn plan.statement.sql earlier.length) := by
  refine ⟨fun other => sql_eq_of_sameButForValues, fun unmarked => ⟨?_, parameters_eq plan, ?_⟩⟩
  · change plan.sql.placeholders = Text.firstPlaceholders plan.parameters.length
    rw [parameters_eq, List.length_map, placeholders_sql unmarked]
  · exact fun earlier binding later => standsIn_sql unmarked

/-- A search by two values, of which either may look like a part of a statement. -/
def searchFor (product region : Text) : WrittenPlan :=
  (Lookup.productSearch { product := some product, region := some region }).written

theorem values_bound_in_place_hostile :
    (searchFor "?9" "' OR 1=1; --").SameButForValues (searchFor "straw" "Oman") ∧
      (searchFor "?9" "' OR 1=1; --").statement.sql = (searchFor "straw" "Oman").statement.sql ∧
      (∀ expression ∈ (searchFor "?9" "' OR 1=1; --").expressions, Text.Unmarked expression) ∧
      (searchFor "?9" "' OR 1=1; --").statement.sql.placeholders = [String.toList "?1", String.toList "?2"] ∧
      ∃ earlier value, (searchFor "?9" "' OR 1=1; --").bindings = [earlier, value] ∧
        value.value = .text "' OR 1=1; --" ∧
        value.StandsIn (searchFor "?9" "' OR 1=1; --").statement.sql 1 := by
  have same : (searchFor "?9" "' OR 1=1; --").SameButForValues (searchFor "straw" "Oman") :=
    { source := rfl
      projection := rfl
      filters := .cons (.contains _ _ _) (.cons (.equals _ _ _) (.cons (.flag _) .nil))
      grouping := rfl
      ordering := rfl
      limit := rfl }
  have other : isReferenceChar '?' = false := by decide
  have unmarked := not_mem_written other
    (Lookup.productSearch { product := some "?9", region := some "' OR 1=1; --" })
  obtain ⟨oneText, inPlace⟩ := values_bound_in_place (searchFor "?9" "' OR 1=1; --")
  obtain ⟨marks, _, stands⟩ := inPlace unmarked
  exact ⟨same, oneText _ same, unmarked, marks, _, _, rfl, rfl, stands [_] _ [] rfl⟩

end Plan
end FeedDesk
