import FeedDesk.Desk.Answer

namespace FeedDesk

/-!
# What passes between a desk and its services

An answer is made in steps.  The question is brought into its English wording,
the oracle may be heard about it, and one query is put to the store.  Each step
is named here, and an answer is put together from them once and for all.

What the store is given cannot be told from its state alone, because nothing is
assumed of states.  A desk is therefore observed: its store writes down every
statement that it is given, together with what it answers.
-/

/-! ## What an oracle is heard for -/

namespace OracleReply

/-- Nothing can be done with the reply: the oracle failed or was silent, or no
suggestion with a query can be read from its text. -/
def Useless : OracleReply → Prop
  | text reply => ∃ error, Suggestion.ofReply reply = .error error
  | failed _ => True
  | silent => True

theorem usable_eq_none_iff {reply : OracleReply} : Oracle.usable reply = none ↔ reply.Useless := by
  cases reply with
  | text reply =>
      rw [Oracle.usable, Useless]
      cases Suggestion.ofReply reply with
      | error error => exact ⟨fun _ => ⟨error, rfl⟩, fun _ => rfl⟩
      | ok suggestion =>
          constructor
          · intro impossible
            cases impossible
          · rintro ⟨error, impossible⟩
            cases impossible
  | failed error => exact ⟨fun _ => trivial, fun _ => rfl⟩
  | silent => exact ⟨fun _ => trivial, fun _ => rfl⟩

theorem exists_text_of_usable {reply : OracleReply} {suggestion : Suggestion}
    (usable : Oracle.usable reply = some suggestion) :
    ∃ text, reply = .text text ∧ Suggestion.ofReply text = .ok suggestion := by
  cases reply with
  | text text =>
      refine ⟨text, rfl, ?_⟩
      rw [Oracle.usable] at usable
      cases read : Suggestion.ofReply text with
      | error error =>
          rw [read] at usable
          cases usable
      | ok found =>
          rw [read] at usable
          cases usable
          rfl
  | failed error => cases usable
  | silent => cases usable

end OracleReply

/-- A suggestion that is read from a reply has a query. -/
theorem Suggestion.isBlank_of_ofReply {reply : Text} {suggestion : Suggestion}
    (read : ofReply reply = .ok suggestion) : suggestion.sql.isBlank = false := by
  unfold ofReply at read
  split at read
  · cases read
  · split at read
    · cases read
    · rename_i solid
      cases read
      exact Bool.eq_false_iff.mpr solid

/-! ## A store that is observed -/

/-- A statement that a store was given, and what it answered. -/
structure Exchange where
  statement : Statement
  answer : Except StoreFailure (List Row)

/-- The store with a record of what it was given, the oldest first. -/
def Store.recorded {State : Type} (store : Store State) : Store (State × List Exchange) where
  rows state query :=
    let (answer, next) := store.rows state.1 query
    (answer, (next, state.2 ++ [⟨query.statement, answer⟩]))
  statistics state := store.statistics state.1

/-- A session of which nothing has been written down yet. -/
def Session.recorded {State : Type} (session : Session State) : Session (State × List Exchange) where
  state := (session.state, [])
  translated := session.translated
  prompts := session.prompts

namespace Desk

variable {State : Type}

def recorded (desk : Desk State) : Desk (State × List Exchange) where
  store := desk.store.recorded
  probe := desk.probe.map fun probe state => probe state.1
  identifier := desk.identifier
  translator := desk.translator
  oracle := desk.oracle

variable (desk : Desk State) (session : Session State) (question : Text) (forced : Option Language)

/-- What passes between the desk and its store while a question is answered. -/
def exchanges : List Exchange :=
  (desk.recorded.ask session.recorded question forced).2.state.2

/-! ## The steps of an answer -/

/-- The language of the answer. -/
def language : Language :=
  forced.getD (Language.detect question desk.identifier)

/-- The question in its English wording, with the requests to the translator so far. -/
def normalized : Text × List TranslatorRequest :=
  Question.normalize desk.translator session.translated question
    (Language.detect question desk.identifier)

def wording : Text :=
  (desk.normalized session question).1

/-- What is looked for, as far as the desk can tell by itself. -/
def synthesis : Synthesis :=
  let wording := desk.wording session question
  Synthesis.ofQuestion wording (Entities.ofText wording)

def prompt : Prompt :=
  Oracle.prompt (desk.wording session question) (desk.language question forced)

/-- What the oracle says to the question, if there is an oracle. -/
def reply? : Option OracleReply :=
  desk.oracle.map fun oracle => oracle.answer session.prompts (desk.prompt session question forced)

def suggestion? : Option Suggestion :=
  (desk.reply? session question forced).bind Oracle.usable

def approach : Approach :=
  Approach.choose (desk.synthesis session question) (desk.suggestion? session question forced)

/-- What the store answers. -/
def answer : Except StoreFailure (List Row) :=
  (desk.store.rows session.state (desk.approach session question forced).query).1

theorem consult_eq :
    (Oracle.consult desk.oracle session.prompts (desk.wording session question)
      (desk.language question forced)).1 = desk.suggestion? session question forced := by
  unfold suggestion? reply? Oracle.consult prompt
  cases desk.oracle <;> rfl

/-- An outcome is made from the wording, the purpose, the approach and the answer of the store. -/
theorem ask_outcome :
    (desk.ask session question forced).1 =
      Outcome.ofRows (desk.language question forced) (desk.wording session question)
        (desk.synthesis session question).intent (desk.approach session question forced)
        (desk.answer session question forced) := by
  unfold answer approach
  rw [← consult_eq]
  rfl

theorem ask_intent :
    (desk.ask session question forced).1.intent = (desk.synthesis session question).intent := by
  rw [ask_outcome]
  cases desk.answer session question forced <;> rfl

theorem ask_wording :
    (desk.ask session question forced).1.normalized = desk.wording session question := by
  rw [ask_outcome]
  cases desk.answer session question forced <;> rfl

theorem ask_state :
    (desk.ask session question forced).2.state =
      (desk.store.rows session.state (desk.approach session question forced).query).2 := by
  unfold approach
  rw [← consult_eq]
  rfl

theorem ask_translated :
    (desk.ask session question forced).2.translated = (desk.normalized session question).2 :=
  rfl

/-! ## Observing -/

/-- The store is given one statement, that of the approach. -/
theorem exchanges_eq :
    desk.exchanges session question forced =
      [⟨(desk.approach session question forced).query.statement, desk.answer session question forced⟩] := by
  unfold exchanges
  rw [ask_state]
  rfl

end Desk
end FeedDesk
