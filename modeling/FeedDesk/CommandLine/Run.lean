import FeedDesk.CommandLine.Invocation
import FeedDesk.CommandLine.Machine
import FeedDesk.Desk.Dialogue
import FeedDesk.Remote.Host
import FeedDesk.Store.Connection

namespace FeedDesk
namespace CommandLine

/-!
Carrying out a command line. The settings are read first, whatever the command. A command that
needs the catalog opens it, and makes the directories that are to hold it. A dialogue and the graph
service are handed on with their desk, every other command ends with what it prints or with an
error.
-/

inductive RunError
  | configuration
  | unwritableConfiguration
  | unreadable (path : Text)
  | invalidFixture (path : Text)
  | noDirectory (path : Text)
  | noDatabase (path : Text)
  /-- The file at the path of the catalog is something else. -/
  | noCatalog
  | unsupportedLanguage (code : Text)
  | invalidHost (host : Text)
  /-- No oracle can stand at its address; this breaks the desk down. -/
  | unreachableHost
  | query (error : QueryError)
  | store (failure : StoreFailure)

namespace RunError

/-- The outermost error. -/
def message : RunError → Text
  | configuration => "failed to load configuration"
  | unwritableConfiguration => "failed to format configuration"
  | unreadable path => "failed to read " ++ path
  | invalidFixture path => "invalid fixture " ++ path
  | noDirectory path => "failed to create " ++ path
  | noDatabase path => "failed to open database at " ++ path
  | noCatalog => "failed to create catalog schema"
  | unsupportedLanguage code => "unsupported language `" ++ code ++ "`"
  | invalidHost host => "invalid oracle host `" ++ host ++ "`"
  | unreachableHost => "the oracle host names no server"
  | query error => error.chain.outermost
  | store failure => failure.error.outermost

def exitCode : RunError → Nat
  | unreachableHost => 101
  | _ => 1

end RunError

inductive Finish
  /-- A text is printed; the command has succeeded or not. -/
  | printed (output : Text) (success : Bool)
  | dialogue (desk : Desk Connection) (session : Session Connection)
  | service (desk : Desk Connection) (session : Session Connection) (address : SocketAddress)
    (credentials : Option Credentials)

variable {m : Type → Type} [Monad m]

/-- The actions of a command, which an error ends. -/
abbrev Action (m : Type → Type) := ExceptT RunError m

/-- The ending that the name of a configuration file must have. -/
def configurationEnding : Text := "toml"

/-- The file that is meant by the path of a configuration: the file at the path, whose name must
have the right ending, or else the one with the ending added. -/
def configurationText (machine : Machine m) (path : Text) : m (Option Text) := do
  if ← machine.isFile path then
    if Path.fileExtension? path = some configurationEnding then machine.readText path
    else return none
  else
    let added := path ++ '.' :: configurationEnding
    if ← machine.isFile added then machine.readText added else return none

def loadSettings (machine : Machine m) (path : Option Text) : Action m Settings := do
  let file ← match path with
    | none => pure none
    | some path =>
      match ← (configurationText machine path : m (Option Text)) with
      | some text => pure (some text)
      | none => throw .configuration
  match Settings.load? machine.environment file with
  | some settings => return settings
  | none => throw .configuration

def openConnection (machine : Machine m) (path : Text) : Action m Connection := do
  match (Path.parent? path).filter (!·.isEmpty) with
  | none => pure ()
  | some parent =>
    if ← (machine.makeDirectories parent : m Bool) then pure () else throw (.noDirectory parent)
  match ← (machine.openCatalog path : m (Except OpenFault Catalog)) with
  | .ok catalog => return { catalog }
  | .error .noFile => throw (.noDatabase path)
  | .error .noCatalog => throw .noCatalog

/-- The oracle of the settings, if they name a model. -/
def oracleOf (machine : Machine m) (settings : OracleSettings) : Action m (Option Oracle) :=
  match settings.model with
  | none => return none
  | some model =>
    match Remote.hostFault? settings.host with
    | none => return some (machine.oracle model settings)
    | some .invalid => throw (.invalidHost settings.host)
    | some .unreachable => throw .unreachableHost

/-- A desk with the services of the settings, and its first session. -/
def openDesk (machine : Machine m) (settings : Settings) :
    Action m (Desk Connection × Session Connection) := do
  let connection ← openConnection machine settings.databasePath
  let oracle ← oracleOf machine settings.oracle
  let desk : Desk Connection := {
    store := Connection.store
    probe := some fun _ => some true
    identifier := if settings.arabizi then some Language.Identifier.arabizi else none
    translator := settings.translator.url.map fun url => machine.translator url settings.translator
    oracle }
  return (desk, { state := connection })

def importFixture (machine : Machine m) (settings : Settings) (path : Text) : Action m Finish := do
  match ← (machine.readText path : m (Option Text)) with
  | none => throw (.unreadable path)
  | some text =>
    match Fixture.ofText? text with
    | none => throw (.invalidFixture path)
    | some fixture =>
      let connection ← openConnection machine settings.databasePath
      match connection.add fixture with
      | (.error error, _) => throw (.query error)
      | (.ok summary, connection) =>
        (machine.saveCatalog settings.databasePath connection.catalog : m Unit)
        return .printed ("Imported " ++ Text.ofNat summary.products ++ " products and " ++
          Text.ofNat summary.restrictions ++ " restrictions (" ++ Text.ofNat summary.skipped ++
          " skipped)\n") true

def printStatistics (machine : Machine m) (settings : Settings) : Action m Finish := do
  let connection ← openConnection machine settings.databasePath
  match Connection.store.statistics connection with
  | .ok statistics => return .printed (statistics.text ++ "\n") true
  | .error failure => throw (.store failure)

/-- The language into which an answer is forced. -/
def forcedLanguage (code : Option Text) : Except RunError (Option Language) :=
  match code with
  | none => .ok none
  | some code =>
    match Language.ofCode? code with
    | some language => .ok (some language)
    | none => .error (.unsupportedLanguage code)

/-- An answer as JSON, with the time at which it was given. -/
def answerJson (outcome : Outcome) (time : Text) : Text :=
  let timed : Text × Json := ("answered_at", .string time)
  (Json.object (outcome.members ++ [timed])).indented 0

def answerQuestion (machine : Machine m) (settings : Settings) (words : List Text) (json : Bool)
    (code : Option Text) : Action m Finish := do
  let forced ← MonadExcept.ofExcept (forcedLanguage code)
  let (desk, session) ← openDesk machine settings
  let (outcome, _) := desk.ask session (Text.joined " " words) forced
  let time ← (machine.time : m Text)
  let shown := if json then answerJson outcome time else outcome.response
  return .printed (shown ++ "\n") outcome.success

def carryOut (machine : Machine m) (settings : Settings) : Command → Action m Finish
  | .configuration =>
    match settings.text? with
    | some text => return .printed text true
    | none => throw .unwritableConfiguration
  | .load path => importFixture machine settings path
  | .statistics => printStatistics machine settings
  | .ask words json code => answerQuestion machine settings words json code
  | .dialogue => do
    let (desk, session) ← openDesk machine settings
    return .dialogue desk session
  | .serve credentials => do
    let (desk, session) ← openDesk machine settings
    return .service desk session settings.address credentials

/-- Carries out a command line. -/
def run (machine : Machine m) (invocation : Invocation) : m (Except RunError Finish) :=
  ExceptT.run do
    let settings ← loadSettings machine invocation.configuration
    carryOut machine settings invocation.command

end CommandLine
end FeedDesk
