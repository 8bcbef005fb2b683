import FeedDesk.Proofs.Catalog.Containment
import FeedDesk.Proofs.Sorting

namespace FeedDesk

/-!
# Plans whose conditions can all be tested

A condition fails to be tested only where its pattern is too long.  A plan
without such a condition reads its records through one of its conditions first
and through all of them afterwards; the records that are kept are simply those
that every condition accepts, in the order of the source.
-/

theorem keepIf_eq_ok {α ε : Type} {test : α → Except ε Bool} {kept : α → Bool} {items : List α}
    (decided : ∀ item ∈ items, test item = .ok (kept item)) : keepIf test items = .ok (items.filter kept) := by
  induction items with
  | nil => rfl
  | cons item items inductionHypothesis =>
      have rest := inductionHypothesis fun other member => decided other (List.mem_cons_of_mem item member)
      simp only [keepIf, decided item List.mem_cons_self, rest, List.filter_cons]

/-- If every test could be made, the items are kept for which it held. -/
theorem eq_filter_of_keepIf {α ε : Type} {test : α → Except ε Bool} {kept : α → Bool} {items found : List α}
    (tested : ∀ item held, test item = .ok held → kept item = held) (whole : keepIf test items = .ok found) :
    found = items.filter kept := by
  induction items generalizing found with
  | nil =>
      cases whole
      rfl
  | cons item items inductionHypothesis =>
      rw [keepIf] at whole
      cases here : test item with
      | error error =>
          rw [here] at whole
          cases whole
      | ok held =>
          cases rest : keepIf test items with
          | error error =>
              rw [here, rest] at whole
              cases whole
          | ok others =>
              rw [here, rest] at whole
              cases whole
              rw [List.filter_cons, tested item held here, inductionHypothesis rest]

namespace Filter

/-- The condition is tested and holds. -/
def accepts (filter : Filter Column) (record : Record) : Bool :=
  match filter.holds record with
  | .ok held => held
  | .error _ => false

/-- The condition can be tested on every record. -/
def Decided (filter : Filter Column) : Prop :=
  ∀ record, filter.holds record = .ok (filter.accepts record)

theorem accepts_of_holds {filter : Filter Column} {record : Record} {held : Bool}
    (tested : filter.holds record = .ok held) : filter.accepts record = held := by
  rw [accepts, tested]

theorem all_accepts_of_allHold {filters : List (Filter Column)} {record : Record} {held : Bool}
    (tested : allHold record filters = .ok held) : filters.all (·.accepts record) = held := by
  induction filters with
  | nil =>
      cases tested
      rfl
  | cons filter filters inductionHypothesis =>
      rw [allHold] at tested
      cases here : filter.holds record with
      | error error =>
          rw [here] at tested
          cases tested
      | ok first =>
          rw [here] at tested
          rw [List.all_cons, accepts_of_holds here]
          cases first with
          | false =>
              cases tested
              rfl
          | true => exact inductionHypothesis tested

theorem decided_contains {column : Column} {value : Text}
    (short : (Pattern.containing value).byteLength ≤ Like.patternLimit) :
    (contains column value).Decided := by
  intro record
  have tested : ∃ held, (contains column value).holds record = .ok held := by
    rw [holds]
    cases record.cell column <;> exact ⟨_, if_neg (Nat.not_lt.mpr short)⟩
  obtain ⟨held, tested⟩ := tested
  rw [accepts_of_holds tested, tested]

theorem decided_marked {column : Column} {marker : Text}
    (short : (Pattern.marking marker).byteLength ≤ Like.patternLimit) : (marked column marker).Decided := by
  intro record
  have tested : ∃ held, (marked column marker).holds record = .ok held := by
    rw [holds]
    cases record.cell column <;> exact ⟨_, if_neg (Nat.not_lt.mpr short)⟩
  obtain ⟨held, tested⟩ := tested
  rw [accepts_of_holds tested, tested]

theorem decided_equals (column : Column) (value : Text) : (equals column value).Decided := fun _ => rfl
theorem decided_flag (column : Column) : (flag column).Decided := fun _ => rfl
theorem decided_atLeast (column : Column) (value : Binary64) : (atLeast column value).Decided := fun _ => rfl
theorem decided_atMost (column : Column) (value : Binary64) : (atMost column value).Decided := fun _ => rfl

theorem allHold_eq_ok {filters : List (Filter Column)} (decided : ∀ filter ∈ filters, filter.Decided)
    (record : Record) : allHold record filters = .ok (filters.all (·.accepts record)) := by
  induction filters with
  | nil => rfl
  | cons filter filters inductionHypothesis =>
      have rest := inductionHypothesis fun other member => decided other (List.mem_cons_of_mem filter member)
      rw [allHold, decided filter List.mem_cons_self record, List.all_cons]
      cases filter.accepts record with
      | false => rfl
      | true =>
          rw [Bool.true_and]
          exact rest

end Filter

namespace Plan

variable {plan : CatalogPlan}

theorem mem_filters_of_access? {filter : Filter Column} (found : plan.access? = some filter) :
    filter ∈ plan.filters := by
  rw [access?] at found
  split at found
  · rename_i flagged first
    rw [found] at first
    exact List.mem_of_find?_eq_some first
  · exact List.mem_of_find?_eq_some found

/-- Reading through one condition first changes nothing. -/
theorem kept_eq_ok (decided : ∀ filter ∈ plan.filters, filter.Decided) (catalog : Catalog) :
    plan.kept catalog =
      .ok ((plan.records catalog).filter fun record => plan.filters.all (·.accepts record)) := by
  have all : ∀ records, keepIf (fun record => Filter.allHold record plan.filters) records =
      .ok (records.filter fun record => plan.filters.all (·.accepts record)) := fun records =>
    keepIf_eq_ok fun record _ => Filter.allHold_eq_ok decided record
  rw [kept, tested]
  cases found : plan.access? with
  | none => exact all _
  | some filter =>
      have member := mem_filters_of_access? found
      have narrowed : keepIf (fun record => filter.holds record) (plan.records catalog) =
          .ok ((plan.records catalog).filter filter.accepts) :=
        keepIf_eq_ok fun record _ => decided filter member record
      dsimp only
      rw [narrowed]
      dsimp only
      rw [all, List.filter_filter]
      congr 2
      funext record
      cases accepted : plan.filters.all (·.accepts record) with
      | false => rw [Bool.false_and]
      | true => rw [List.all_eq_true.mp accepted filter member, Bool.true_and]

/-- Whenever a plan keeps records, they are those that every condition accepts. -/
theorem eq_filter_of_kept {catalog : Catalog} {records : List Record} (found : plan.kept catalog = .ok records) :
    records = (plan.records catalog).filter fun record => plan.filters.all (·.accepts record) := by
  have all : ∀ {items kept : List Record}, keepIf (fun record => Filter.allHold record plan.filters) items =
      .ok kept → kept = items.filter fun record => plan.filters.all (·.accepts record) := fun whole =>
    eq_filter_of_keepIf (fun _ _ => Filter.all_accepts_of_allHold) whole
  rw [kept, tested] at found
  cases access : plan.access? with
  | none =>
      rw [access] at found
      exact all found
  | some filter =>
      rw [access] at found
      dsimp only at found
      cases narrowed : keepIf (fun record => filter.holds record) (plan.records catalog) with
      | error error =>
          rw [narrowed] at found
          cases found
      | ok items =>
          rw [narrowed] at found
          rw [all found, eq_filter_of_keepIf (fun _ _ => Filter.accepts_of_holds) narrowed, List.filter_filter]
          refine List.filter_congr fun record _ => ?_
          cases accepted : plan.filters.all (·.accepts record) with
          | false => rw [Bool.false_and]
          | true => rw [List.all_eq_true.mp accepted filter (mem_filters_of_access? access), Bool.true_and]

/-- What a plan keeps depends on its source and its conditions alone. -/
theorem kept_congr {other : CatalogPlan} (source : plan.source = other.source)
    (filters : plan.filters = other.filters) (catalog : Catalog) : plan.kept catalog = other.kept catalog := by
  rw [kept, kept, tested, tested, access?, access?, records, records, source, filters]

/-- Without grouping every record is a group of its own. -/
theorem groups_of_grouping_eq_nil (none : plan.grouping = []) (records : List Record) :
    plan.groups records = records.map fun record => [record] := by
  rw [groups, none]
  rfl

theorem filterIf_eq {α column output : Type} (plan : Plan column output) (value : Option α)
    (condition : α → Filter column) :
    plan.filterIf value condition = { plan with filters := plan.filters ++ (value.map condition).toList } := by
  cases value with
  | some value => rfl
  | none =>
      rw [Option.map_none, Option.toList_none, List.append_nil]
      rfl

end Plan

namespace Cell

/-- Order of two numbers that may be unknown, by their positions. -/
def realsInOrder : Option Binary64 → Option Binary64 → Bool
  | none, _ => true
  | some _, none => false
  | some left, some right => left.position ≤ right.position

theorem order_ofReal? (left right : Option Binary64) :
    ((ofReal? left).order (ofReal? right) != .gt) = realsInOrder left right := by
  cases left with
  | none => cases right <;> rfl
  | some left =>
      cases right with
      | none => rfl
      | some right =>
          rw [Bool.eq_iff_iff, bne_iff_ne, ofReal?, ofReal?, order, realsInOrder, decide_eq_true_eq]
          exact Int.compare_ne_gt

theorem realsInOrder_trans (first second third : Option Binary64) (before : realsInOrder first second)
    (behind : realsInOrder second third) : realsInOrder first third := by
  cases first with
  | none => rfl
  | some first =>
      cases second with
      | none => cases before
      | some second =>
          cases third with
          | none => cases behind
          | some third =>
              exact decide_eq_true (Int.le_trans (of_decide_eq_true before) (of_decide_eq_true behind))

theorem realsInOrder_total (first second : Option Binary64) :
    realsInOrder first second || realsInOrder second first := by
  cases first with
  | none => rfl
  | some first =>
      cases second with
      | none => rfl
      | some second =>
          rw [Bool.or_eq_true]
          exact (Int.le_total first.position second.position).imp decide_eq_true decide_eq_true

end Cell
end FeedDesk
