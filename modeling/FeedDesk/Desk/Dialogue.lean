import FeedDesk.Desk.Answer
import FeedDesk.Desk.Example

namespace FeedDesk

/-!
The dialogue at a terminal. Each line is a command or, if it is none, a question; commands are
recognised in any case and with blanks around them. The dialogue ends at a command to leave or at
the end of the input.
-/

namespace Dialogue

def banner : Text :=
  "Feed products assistant. Ask in English or Arabic; type `help` for commands."

def help : Text := Text.joined "\n" [
  "Commands:",
  "  help      show this message",
  "  examples  sample questions in both languages",
  "  stats     catalog statistics",
  "  sql       toggle printing the executed SQL",
  "  clear     clear the screen",
  "  exit      leave (also `quit`, `bye`, `خروج`)",
  "",
  "Anything else is answered as a question."]

/-- What stands in front of every line that is entered. -/
def cue : Text := "> "

/-- Clears a terminal and puts its cursor into the corner. -/
def clearing : Text := "\x1b[2J\x1b[H"

inductive Entry
  | nothing
  | help
  | examples
  | statistics
  | toggleStatements
  | clear
  | leave
  | question (text : Text)
  deriving DecidableEq

namespace Entry

def ofLine (line : Text) : Entry :=
  let line := line.trim
  let word := line.lower
  if word = [] then nothing
  else if word = "help" ∨ word = "?" then help
  else if word = "examples" then examples
  else if word = "stats" then statistics
  else if word = "sql" then toggleStatements
  else if word = "clear" then clear
  else if word = "exit" ∨ word = "quit" ∨ word = "bye" ∨ word = "خروج" then leave
  else question line

end Entry

structure State (Store : Type) where
  session : Session Store
  /-- Answers are shown with the statement that was put to the store. -/
  showsStatements : Bool := false

/-- What comes of an entry: text for the two channels, and the state in which the dialogue goes on,
if it does. -/
structure Reply (Store : Type) where
  output : Text := []
  error : Text := []
  next : Option (State Store)

def exampleText (question : Example) : Text :=
  '[' :: (question.category ++ "]\n  " ++ question.english ++ "\n  " ++ question.arabic)

/-- An answer as it is shown. -/
def answerText (outcome : Outcome) (showsStatements : Bool) : Text :=
  if showsStatements && !outcome.queryText.isEmpty then
    outcome.queryText ++ "\n\n" ++ outcome.response
  else outcome.response

/-- A text with an empty line behind it. -/
def paragraph (text : Text) : Text :=
  text ++ "\n\n"

def reply {Store : Type} (desk : Desk Store) (state : State Store) : Entry → Reply Store
  | .nothing => { next := some state }
  | .help => { output := paragraph help, next := some state }
  | .examples =>
    { output := paragraph (Text.joined "\n" (Example.all.map exampleText)), next := some state }
  | .statistics =>
    match desk.statistics state.session with
    | .ok statistics => { output := paragraph statistics.text, next := some state }
    | .error failure =>
      { error := paragraph ("Failed to read statistics: " ++ failure.error.message)
        next := some state }
  | .toggleStatements =>
    let shows := !state.showsStatements
    let word : Text := if shows then "on" else "off"
    { output := paragraph ("SQL display " ++ word)
      next := some { state with showsStatements := shows } }
  | .clear => { output := clearing, next := some state }
  | .leave => { next := none }
  | .question text =>
    let (outcome, session) := desk.ask state.session text none
    { output := paragraph (answerText outcome state.showsStatements)
      next := some { state with session } }

/-- What the terminal shows of the lines that are entered. -/
def shown {Store : Type} (desk : Desk Store) (state : State Store) : List Text → Text
  | [] => cue
  | line :: lines =>
    let reply := reply desk state (.ofLine line)
    let rest := match reply.next with
      | some state => shown desk state lines
      | none => []
    cue ++ reply.output ++ rest

/-- The lines of an input; a line end at the close begins no further line. -/
def linesOf (input : Text) : List Text :=
  let lines := input.splitBy (· == '\n')
  match lines.reverse with
  | [] :: before => before.reverse
  | _ => lines

/-- What the terminal shows of a whole dialogue. -/
def transcript {Store : Type} (desk : Desk Store) (session : Session Store) (input : Text) : Text :=
  paragraph banner ++ shown desk { session } (linesOf input)

end Dialogue
end FeedDesk
