import FeedDesk.Proofs.Desk.Exchange

namespace FeedDesk

/-!
# What an oracle can and cannot change

An oracle is heard after the question has been brought into its wording and its
purpose has been found, so it has no influence on either.  A reply without a
usable suggestion has no influence at all: the answer is the one that the desk
gives by itself.  A usable suggestion replaces the query, word for word, and
nothing is bound to it.

Questions are asked one after another.  Two sessions then differ in what their
oracles have been shown, and, once a suggestion has been followed, perhaps in
the state of the store; what carries the run is that they agree on what the
translator has been asked.
-/

namespace Desk

variable {State : Type}

/-- The desk with the given oracle, or without any. -/
def hearing (desk : Desk State) (oracle : Option Oracle) : Desk State :=
  { desk with oracle }

/-- The outcomes of questions that are asked one after another, each with the
language that may be forced, and the session after them. -/
def askAll (desk : Desk State) (session : Session State) :
    List (Text × Option Language) → List Outcome × Session State
  | [] => ([], session)
  | (question, forced) :: questions =>
    let (outcome, session) := desk.ask session question forced
    let (outcomes, session) := desk.askAll session questions
    (outcome :: outcomes, session)

/-- What the oracle says in the course of questions. -/
def replies (desk : Desk State) (session : Session State) : List (Text × Option Language) → List OracleReply
  | [] => []
  | (question, forced) :: questions =>
    (desk.reply? session question forced).toList ++
      desk.replies (desk.ask session question forced).2 questions

/-! ## One question -/

section Question

variable (desk : Desk State) (oracle other : Option Oracle) {session away : Session State}
  (question : Text) (forced : Option Language)

/-- The wording comes from the question and the translator. -/
theorem normalized_hearing (translated : session.translated = away.translated) :
    (desk.hearing oracle).normalized session question = (desk.hearing other).normalized away question := by
  unfold normalized
  rw [translated]
  rfl

theorem synthesis_hearing (translated : session.translated = away.translated) :
    (desk.hearing oracle).synthesis session question = (desk.hearing other).synthesis away question := by
  unfold synthesis wording
  rw [normalized_hearing desk oracle other question translated]

theorem suggestion?_eq_none
    (useless : ∀ reply ∈ desk.reply? session question forced, reply.Useless) :
    desk.suggestion? session question forced = none := by
  unfold suggestion?
  cases said : desk.reply? session question forced with
  | none => rfl
  | some reply => exact OracleReply.usable_eq_none_iff.mpr (useless reply said)

/-- Purpose and wording are found before an oracle is heard. -/
theorem purpose_hearing (translated : session.translated = away.translated) :
    (((desk.hearing oracle).ask session question forced).1.intent,
        ((desk.hearing oracle).ask session question forced).1.normalized) =
      (((desk.hearing other).ask away question forced).1.intent,
        ((desk.hearing other).ask away question forced).1.normalized) := by
  rw [ask_intent, ask_intent, ask_wording, ask_wording]
  unfold wording
  rw [synthesis_hearing desk oracle other question translated,
    normalized_hearing desk oracle other question translated]

/-- What the translator is asked does not depend on the oracle. -/
theorem translated_hearing (translated : session.translated = away.translated) :
    ((desk.hearing oracle).ask session question forced).2.translated =
      ((desk.hearing other).ask away question forced).2.translated := by
  rw [ask_translated, ask_translated, normalized_hearing desk oracle other question translated]

/-- Where no suggestion is made on either side, the same query is put to the store. -/
theorem ask_hearing (state : session.state = away.state) (translated : session.translated = away.translated)
    (alone : (desk.hearing oracle).suggestion? session question forced = none)
    (other_alone : (desk.hearing other).suggestion? away question forced = none) :
    ((desk.hearing oracle).ask session question forced).1 =
        ((desk.hearing other).ask away question forced).1 ∧
      ((desk.hearing oracle).ask session question forced).2.state =
        ((desk.hearing other).ask away question forced).2.state := by
  have approach : (desk.hearing oracle).approach session question forced =
      (desk.hearing other).approach away question forced := by
    unfold Desk.approach
    rw [alone, other_alone, synthesis_hearing desk oracle other question translated]
  have answer : (desk.hearing oracle).answer session question forced =
      (desk.hearing other).answer away question forced := by
    unfold Desk.answer
    rw [approach, state]
    rfl
  constructor
  · rw [ask_outcome, ask_outcome, approach, answer,
      synthesis_hearing desk oracle other question translated]
    unfold wording
    rw [normalized_hearing desk oracle other question translated]
    rfl
  · rw [ask_state, ask_state, approach, state]
    rfl

/-- A usable suggestion is put to the store as it is. -/
theorem exchanges_of_suggestion {suggestion : Suggestion}
    (suggested : desk.suggestion? session question forced = some suggestion) :
    ∃ answer, desk.exchanges session question forced = [⟨⟨suggestion.sql, []⟩, answer⟩] := by
  refine ⟨desk.answer session question forced, ?_⟩
  rw [exchanges_eq]
  unfold approach
  rw [suggested]
  rfl

end Question

/-! ## A run of questions -/

theorem askAll_cons (desk : Desk State) (session : Session State) (question : Text)
    (forced : Option Language) (questions : List (Text × Option Language)) :
    desk.askAll session ((question, forced) :: questions) =
      ((desk.ask session question forced).1 ::
          (desk.askAll (desk.ask session question forced).2 questions).1,
        (desk.askAll (desk.ask session question forced).2 questions).2) :=
  rfl

/-- Along a run the purposes and wordings stay those of any other oracle. -/
theorem askAll_purposes (desk : Desk State) (oracle other : Option Oracle) {session away : Session State}
    (translated : session.translated = away.translated) (questions : List (Text × Option Language)) :
    ((desk.hearing oracle).askAll session questions).1.map (fun outcome =>
        (outcome.intent, outcome.normalized)) =
      ((desk.hearing other).askAll away questions).1.map fun outcome =>
        (outcome.intent, outcome.normalized) := by
  induction questions generalizing session away with
  | nil => rfl
  | cons asked questions inductionHypothesis =>
      obtain ⟨question, forced⟩ := asked
      have now := purpose_hearing desk oracle other question forced translated
      have later := inductionHypothesis (translated_hearing desk oracle other question forced translated)
      rw [askAll_cons, askAll_cons, List.map_cons, List.map_cons, now, later]

/-- Along a run in which nothing usable is said, outcomes and states are those
of a desk that hears nobody. -/
theorem askAll_of_useless (desk : Desk State) (oracle : Option Oracle) {session away : Session State}
    (state : session.state = away.state) (translated : session.translated = away.translated)
    (questions : List (Text × Option Language))
    (useless : ∀ reply ∈ (desk.hearing oracle).replies session questions, reply.Useless) :
    ((desk.hearing oracle).askAll session questions).1 = ((desk.hearing none).askAll away questions).1 ∧
      ((desk.hearing oracle).askAll session questions).2.state =
        ((desk.hearing none).askAll away questions).2.state := by
  induction questions generalizing session away with
  | nil => exact ⟨rfl, state⟩
  | cons asked questions inductionHypothesis =>
      obtain ⟨question, forced⟩ := asked
      have now : (desk.hearing oracle).suggestion? session question forced = none :=
        suggestion?_eq_none _ question forced fun reply said =>
          useless reply (List.mem_append_left _ (Option.mem_toList.mpr said))
      obtain ⟨outcome, nextState⟩ := ask_hearing desk oracle none question forced state translated now rfl
      have nextTranslated := translated_hearing desk oracle none question forced translated
      obtain ⟨outcomes, lastState⟩ := inductionHypothesis nextState nextTranslated fun reply said =>
        useless reply (List.mem_append_right _ said)
      rw [askAll_cons, askAll_cons, outcome, outcomes]
      exact ⟨rfl, lastState⟩

/-- An oracle of which nothing usable comes is not noticed, neither in the
outcomes of a run of questions nor by the store.  Whatever an oracle says, the
purposes and wordings of a run stay those of the desk by itself; and where it
makes a suggestion, the store is given the suggested text alone, with nothing
bound to it. -/
theorem useless_oracle_unnoticed (desk : Desk State) (oracle : Oracle) (session : Session State)
    (questions : List (Text × Option Language)) :
    ((∀ reply ∈ (desk.hearing oracle).replies session questions, reply.Useless) →
      ((desk.hearing oracle).askAll session questions).1 =
          ((desk.hearing none).askAll session questions).1 ∧
        ((desk.hearing oracle).askAll session questions).2.state =
          ((desk.hearing none).askAll session questions).2.state) ∧
      ((desk.hearing oracle).askAll session questions).1.map (fun outcome =>
          (outcome.intent, outcome.normalized)) =
        ((desk.hearing none).askAll session questions).1.map (fun outcome =>
          (outcome.intent, outcome.normalized)) ∧
      ∀ (question : Text) (forced : Option Language) (text : Text) (suggestion : Suggestion),
        (desk.hearing oracle).reply? session question forced = some (.text text) →
        Suggestion.ofReply text = .ok suggestion →
        (∃ answer, (desk.hearing oracle).exchanges session question forced =
            [⟨⟨suggestion.sql, []⟩, answer⟩]) ∧
          ((desk.hearing oracle).ask session question forced).1.intent =
            ((desk.hearing none).ask session question forced).1.intent ∧
          ((desk.hearing oracle).ask session question forced).1.normalized =
            ((desk.hearing none).ask session question forced).1.normalized := by
  refine ⟨askAll_of_useless desk oracle rfl rfl questions, askAll_purposes desk oracle none rfl questions, ?_⟩
  intro question forced text suggestion said read
  have suggested : (desk.hearing oracle).suggestion? session question forced = some suggestion := by
    unfold suggestion?
    rw [said, Option.bind_some, Oracle.usable, read]
    rfl
  have agreed : session.translated = session.translated := rfl
  have purpose := Prod.mk.inj (purpose_hearing desk oracle none question forced agreed)
  exact ⟨exchanges_of_suggestion _ question forced suggested, purpose.1, purpose.2⟩

/-! A desk over an empty store, an oracle that fails, is silent and then gives
a blank query, and one that always makes the same suggestion. -/

def quietDesk : Desk Unit where
  store := { rows := fun _ _ => (.ok [], ()), statistics := fun _ => .ok {} }

def quietSession : Session Unit where
  state := ()

def uselessOracle : Oracle :=
  Service.ofList (.failed ⟨"model not found", []⟩) [.silent, .text "\x7b\"sql\": \" \"\x7d"]

def usefulOracle : Oracle where
  answer _ _ := .text "\x7b\"sql\": \"SELECT 1\"\x7d"

theorem useless_oracle_unnoticed_mute :
    (∀ reply ∈ (quietDesk.hearing uselessOracle).replies quietSession
        [("cheapest barley", none), ("list all", some .arabic), ("mean price", none)], reply.Useless) ∧
      ((quietDesk.hearing uselessOracle).askAll quietSession
          [("cheapest barley", none), ("list all", some .arabic), ("mean price", none)]).1 =
        ((quietDesk.hearing none).askAll quietSession
          [("cheapest barley", none), ("list all", some .arabic), ("mean price", none)]).1 ∧
      Suggestion.ofReply "\x7b\"sql\": \"SELECT 1\"\x7d" = .ok ⟨"SELECT 1", [], []⟩ ∧
      ∃ answer, (quietDesk.hearing usefulOracle).exchanges quietSession "cheapest barley" none =
        [⟨⟨"SELECT 1", []⟩, answer⟩] := by
  have said : (quietDesk.hearing uselessOracle).replies quietSession
      [("cheapest barley", none), ("list all", some .arabic), ("mean price", none)] =
        [.failed ⟨"model not found", []⟩, .silent, .text "\x7b\"sql\": \" \"\x7d"] := rfl
  have blank : Oracle.usable (.text "\x7b\"sql\": \" \"\x7d") = none := by decide +kernel
  have useless : ∀ reply ∈ (quietDesk.hearing uselessOracle).replies quietSession
      [("cheapest barley", none), ("list all", some .arabic), ("mean price", none)], reply.Useless := by
    intro reply member
    rw [said] at member
    simp only [List.mem_cons, List.not_mem_nil, or_false] at member
    rcases member with rfl | rfl | rfl
    · trivial
    · trivial
    · exact OracleReply.usable_eq_none_iff.mp blank
  have usable : Oracle.usable (.text "\x7b\"sql\": \"SELECT 1\"\x7d") = some ⟨"SELECT 1", [], []⟩ := by
    decide +kernel
  have read : Suggestion.ofReply "\x7b\"sql\": \"SELECT 1\"\x7d" = .ok ⟨"SELECT 1", [], []⟩ := by
    obtain ⟨_, same, found⟩ := OracleReply.exists_text_of_usable usable
    cases same
    exact found
  have unnoticed := useless_oracle_unnoticed quietDesk uselessOracle quietSession
    [("cheapest barley", none), ("list all", some .arabic), ("mean price", none)]
  have followed := useless_oracle_unnoticed quietDesk usefulOracle quietSession []
  exact ⟨useless, (unnoticed.1 useless).1, read,
    (followed.2.2 "cheapest barley" none _ _ rfl read).1⟩

end Desk
end FeedDesk
