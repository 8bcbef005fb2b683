import FeedDesk.Proofs.Number.Written
import FeedDesk.Proofs.Plan.Placeholders

namespace FeedDesk

/-!
# What is shown tells one statement from another

The values of a statement are shown below its text, where each of them may look
like more of the list.  The text itself holds no colon, so the first colon that
is shown belongs to the heading of the list.  Behind the heading the values are
read one after another: a quoted text ends at a quote that no second one follows,
and a number at the comma that separates it from the next value.
-/

/-! ## Quoted texts -/

namespace Text

variable {mark : Char} {rest rest' : Text}

theorem replaceChar_cons (written : Text) (char : Char) (text : Text) :
    replaceChar mark written (char :: text) =
      (if char = mark then written else [char]) ++ replaceChar mark written text :=
  List.flatMap_cons

/-- A mark that stands alone does not go on with a text in which marks are doubled. -/
theorem ne_doubled_cons (ends : rest.head? ≠ some mark) (char : Char) (text back : Text) :
    mark :: rest ≠ replaceChar mark [mark, mark] (char :: text) ++ back := by
  intro same
  rw [replaceChar_cons] at same
  split at same
  · rw [(List.cons.inj same).2] at ends
    exact ends rfl
  · rename_i different
    exact different (List.cons.inj same).1.symm

/-- A text whose marks are doubled ends at the first mark that is not. -/
theorem doubled_append_inj {text text' : Text} (ends : rest.head? ≠ some mark) (ends' : rest'.head? ≠ some mark)
    (same : replaceChar mark [mark, mark] text ++ mark :: rest =
      replaceChar mark [mark, mark] text' ++ mark :: rest') : text = text' ∧ rest = rest' := by
  induction text generalizing text' with
  | nil =>
      cases text' with
      | nil => exact ⟨rfl, (List.cons.inj same).2⟩
      | cons char' text' => exact absurd same (ne_doubled_cons ends char' text' _)
  | cons char text inductionHypothesis =>
      cases text' with
      | nil => exact absurd same.symm (ne_doubled_cons ends' char text _)
      | cons char' text' =>
          have tails : char = char' ∧ replaceChar mark [mark, mark] text ++ mark :: rest =
              replaceChar mark [mark, mark] text' ++ mark :: rest' := by
            rw [replaceChar_cons, replaceChar_cons] at same
            split at same
            · rename_i marked
              split at same
              · rename_i marked'
                exact ⟨marked.trans marked'.symm, (List.cons.inj (List.cons.inj same).2).2⟩
              · rename_i different
                exact absurd (List.cons.inj same).1.symm different
            · rename_i different
              split at same
              · exact absurd (List.cons.inj same).1 different
              · exact List.cons.inj same
          obtain ⟨rfl, behind⟩ := tails
          obtain ⟨rfl, rfl⟩ := inductionHypothesis behind
          exact ⟨rfl, rfl⟩

end Text

/-! ## Values -/

namespace Parameter

/-- A number that is bound is finite. -/
def IsFinite : Parameter → Prop
  | text _ => True
  | real value => value.isFinite = true

/-- What may stand behind a value: nothing, or a comma. -/
def Ends (rest : Text) : Prop :=
  rest = [] ∨ ∃ more, rest = ',' :: more

theorem Ends.head?_ne {rest : Text} (ends : Ends rest) : rest.head? ≠ some '\'' := by
  rcases ends with rfl | ⟨more, rfl⟩
  · exact Option.some_ne_none _ ∘ Eq.symm
  · exact fun same => absurd (Option.some.inj same) (by decide)

theorem Ends.not_number {rest : Text} (ends : Ends rest) : rest.head?.any Binary64.isPlainChar = false := by
  rcases ends with rfl | ⟨more, rfl⟩
  · rfl
  · rfl

theorem shown_text_append (value rest : Text) :
    (text value).shown ++ rest = '\'' :: (Text.replaceChar '\'' ['\'', '\''] value ++ '\'' :: rest) := by
  rw [shown, List.cons_append, List.cons_append, List.append_assoc]
  rfl

/-- A number is not taken for a quoted text. -/
theorem shown_text_ne_real {value : Text} {number : Binary64} {rest rest' : Text} (finite : number.isFinite = true)
    (ends : Ends rest') : (text value).shown ++ rest ≠ (real number).shown ++ rest' := by
  intro same
  rw [shown_text_append] at same
  change _ = number.plainText ++ rest' at same
  have nothing : ∀ char ∈ ([] : Text), Binary64.isPlainChar char = true := List.forall_mem_nil _
  have digits := Binary64.isPlainChar_of_mem_plainText finite
  have none := (Text.append_inj_of_all nothing digits rfl ends.not_number same).2
  exact ends.head?_ne (by rw [← none]; rfl)

/-- A value that is shown can be told from what stands behind it. -/
theorem shown_append_inj {parameter other : Parameter} {rest rest' : Text} (finite : parameter.IsFinite)
    (finite' : other.IsFinite) (ends : Ends rest) (ends' : Ends rest')
    (same : parameter.shown ++ rest = other.shown ++ rest') : parameter = other ∧ rest = rest' := by
  cases parameter with
  | text value =>
      cases other with
      | text value' =>
          rw [shown_text_append, shown_text_append] at same
          obtain ⟨rfl, rfl⟩ := Text.doubled_append_inj ends.head?_ne ends'.head?_ne (List.cons.inj same).2
          exact ⟨rfl, rfl⟩
      | real number => exact absurd same (shown_text_ne_real finite' ends')
  | real number =>
      cases other with
      | text value => exact absurd same.symm (shown_text_ne_real finite ends)
      | real number' =>
          obtain ⟨numbers, behind⟩ := Text.append_inj_of_all (Binary64.isPlainChar_of_mem_plainText finite)
            (Binary64.isPlainChar_of_mem_plainText finite') ends.not_number ends'.not_number same
          exact ⟨congrArg real (Binary64.eq_of_plainText finite finite' numbers), behind⟩

end Parameter

/-! ## Statements -/

namespace Statement

/-- Values as they are shown behind others. -/
def following (place : Nat) (parameters : List Parameter) : Text :=
  (shownParameters place parameters).flatMap (", " ++ ·)

theorem following_cons (place : Nat) (parameter : Parameter) (parameters : List Parameter) :
    following place (parameter :: parameters) =
      ", ?" ++ Text.ofNat place ++ " = " ++ (parameter.shown ++ following (place + 1) parameters) := by
  rw [following, shownParameters, List.flatMap_cons]
  simp only [List.append_assoc, List.cons_append]
  rfl

theorem ends_following (place : Nat) (parameters : List Parameter) : Parameter.Ends (following place parameters) := by
  cases parameters with
  | nil => exact Or.inl rfl
  | cons parameter parameters => exact Or.inr ⟨_, rfl⟩

theorem following_injective {place : Nat} {parameters others : List Parameter}
    (finite : ∀ parameter ∈ parameters, parameter.IsFinite) (finite' : ∀ parameter ∈ others, parameter.IsFinite)
    (same : following place parameters = following place others) : parameters = others := by
  induction parameters generalizing place others with
  | nil =>
      cases others with
      | nil => rfl
      | cons other others => exact absurd same (List.cons_ne_nil _ _).symm
  | cons parameter parameters inductionHypothesis =>
      cases others with
      | nil => exact absurd same (List.cons_ne_nil _ _)
      | cons other others =>
          rw [following_cons, following_cons] at same
          obtain ⟨rfl, behind⟩ := Parameter.shown_append_inj (finite _ List.mem_cons_self)
            (finite' _ List.mem_cons_self) (ends_following _ _) (ends_following _ _) (List.append_cancel_left same)
          have rest := inductionHypothesis (fun value listed => finite value (List.mem_cons_of_mem _ listed))
            (fun value listed => finite' value (List.mem_cons_of_mem _ listed)) behind
          rw [rest]

theorem shown_nil (sql : Text) : (⟨sql, []⟩ : Statement).shown = sql :=
  List.append_nil sql

theorem shown_cons (sql : Text) (parameter : Parameter) (parameters : List Parameter) :
    (⟨sql, parameter :: parameters⟩ : Statement).shown =
      (sql ++ "\n-- params") ++ ':' :: (following 1 (parameter :: parameters)).tail := by
  change sql ++ ("\n-- params: " ++ Text.joined ", " (shownParameters 1 (parameter :: parameters))) = _
  rw [shownParameters, Text.joined_cons, following_cons]
  simp only [List.append_assoc, List.cons_append]
  rfl

theorem ne_of_mem_heading {sql : Text} (free : ':' ∉ sql) :
    ∀ char ∈ sql ++ String.toList "\n-- params", (char != ':') = true := by
  intro char member
  rw [bne_iff_ne]
  rintro rfl
  exact List.not_mem_append free (by decide) member

/-- Statements without a colon in their texts are told by what is shown of them. -/
theorem eq_of_shown {sql sql' : Text} {parameters others : List Parameter} (free : ':' ∉ sql) (free' : ':' ∉ sql')
    (finite : ∀ parameter ∈ parameters, parameter.IsFinite) (finite' : ∀ parameter ∈ others, parameter.IsFinite)
    (same : (⟨sql, parameters⟩ : Statement).shown = (⟨sql', others⟩ : Statement).shown) :
    sql = sql' ∧ parameters = others := by
  cases parameters with
  | nil =>
      cases others with
      | nil =>
          rw [shown_nil, shown_nil] at same
          exact ⟨same, rfl⟩
      | cons other others =>
          rw [shown_nil, shown_cons] at same
          rw [same] at free
          exact absurd (List.mem_append_right _ List.mem_cons_self) free
  | cons parameter parameters =>
      cases others with
      | nil =>
          rw [shown_nil, shown_cons] at same
          rw [← same] at free'
          exact absurd (List.mem_append_right _ List.mem_cons_self) free'
      | cons other others =>
          rw [shown_cons, shown_cons] at same
          obtain ⟨fronts, lists⟩ := Text.append_inj_of_all (ne_of_mem_heading free) (ne_of_mem_heading free')
            rfl rfl same
          have values : following 1 (parameter :: parameters) = following 1 (other :: others) :=
            congrArg (',' :: ·) (List.cons.inj lists).2
          exact ⟨List.append_cancel_right fronts, following_injective finite finite' values⟩

end Statement

/-! ## Plans over the catalog -/

theorem Filter.colon_not_mem_condition {filter : Filter Text} (free : ':' ∉ filter.subject) (place : Nat) :
    ':' ∉ filter.condition place := by
  have digits : ':' ∉ Text.ofNat place := Text.not_mem_ofNat rfl place
  cases filter with
  | contains column value =>
      have opening : ':' ∉ "LOWER(" ++ column ++ ") LIKE ?" :=
        List.not_mem_append (List.not_mem_append (by decide) free) (by decide)
      exact List.not_mem_append (List.not_mem_append opening digits) (by decide)
  | flag column => exact List.not_mem_append free (by decide)
  | notNull column => exact List.not_mem_append free (by decide)
  | _ => exact List.not_mem_append (List.not_mem_append free (by decide)) digits

theorem Filter.exists_of_mem_conditions {filters : List (Filter Text)} {place : Nat} {part : Text}
    (listed : part ∈ Filter.conditions place filters) :
    ∃ filter ∈ filters, ∃ place, part = filter.condition place := by
  induction filters generalizing place with
  | nil => cases listed
  | cons filter filters inductionHypothesis =>
      rw [Filter.conditions] at listed
      rcases List.mem_cons.mp listed with rfl | later
      · exact ⟨filter, List.mem_cons_self, place, rfl⟩
      · obtain ⟨other, within, written⟩ := inductionHypothesis later
        exact ⟨other, List.mem_cons_of_mem filter within, written⟩

namespace Plan

theorem colon_not_mem_sql (plan : CatalogPlan) : ':' ∉ plan.written.sql := by
  have absent : ':' ∉ wording := by decide
  have other : isReferenceChar ':' = false := by decide
  have free := not_mem_written other plan
  have conditions : ':' ∉ conditionsText plan.written.filters := by
    refine not_mem_clause (by decide) (by decide) fun part listed => ?_
    obtain ⟨filter, within, place, rfl⟩ := Filter.exists_of_mem_conditions listed
    exact Filter.colon_not_mem_condition (not_mem_subject free filter within) place
  rw [sql_eq]
  exact List.not_mem_append (List.not_mem_append (not_mem_leading absent free) conditions)
    (not_mem_trailing absent free rfl)

/-- Two plans over the catalog whose statements are shown alike have one SQL text
and one list of parameters, whatever the texts that they bind hold. -/
theorem statement_eq_of_shown (plan other : CatalogPlan)
    (finite : ∀ parameter ∈ plan.written.statement.parameters, parameter.IsFinite)
    (finite' : ∀ parameter ∈ other.written.statement.parameters, parameter.IsFinite)
    (same : plan.written.statement.shown = other.written.statement.shown) :
    plan.written.statement.sql = other.written.statement.sql ∧
      plan.written.statement.parameters = other.written.statement.parameters :=
  Statement.eq_of_shown (colon_not_mem_sql plan) (colon_not_mem_sql other) finite finite' same

/-- A search by a part of a name that looks like the end of its own quotes, with
a price that is not to be exceeded. -/
def quotedSearch (product : Text) : CatalogPlan :=
  Lookup.productSearch { product := some product, greatestCost := some (.ofDecimal false 25 (-2)) }

theorem statement_eq_of_shown_quoted :
    (quotedSearch "O'BRIEN', ?2 = 'X").written.statement.shown =
        (quotedSearch "o'brien', ?2 = 'x").written.statement.shown ∧
      (quotedSearch "O'BRIEN', ?2 = 'X").written.statement.sql =
        (quotedSearch "o'brien', ?2 = 'x").written.statement.sql ∧
      (quotedSearch "O'BRIEN', ?2 = 'X").written.statement.parameters =
        (quotedSearch "o'brien', ?2 = 'x").written.statement.parameters ∧
      (quotedSearch "o'brien', ?2 = 'x").written.statement.shown ≠ (quotedSearch "o'brien").written.statement.shown := by
  have same : (quotedSearch "O'BRIEN', ?2 = 'X").written.statement.shown =
      (quotedSearch "o'brien', ?2 = 'x").written.statement.shown := by decide +kernel
  have parameters : ∀ product, (quotedSearch product).written.statement.parameters =
      [.text (Pattern.containing product), .real (.ofDecimal false 25 (-2))] := fun _ => rfl
  have finite : ∀ product, ∀ parameter ∈ (quotedSearch product).written.statement.parameters, parameter.IsFinite := by
    intro product
    rw [parameters]
    have number : (Binary64.ofDecimal false 25 (-2)).isFinite = true := by decide +kernel
    exact List.forall_mem_cons.mpr ⟨trivial, List.forall_mem_singleton.mpr number⟩
  obtain ⟨texts, values⟩ := statement_eq_of_shown _ _ (finite _) (finite _) same
  refine ⟨same, texts, values, fun alike => ?_⟩
  have one := (statement_eq_of_shown _ _ (finite _) (finite _) alike).2
  exact absurd one (by decide +kernel)

end Plan
end FeedDesk
