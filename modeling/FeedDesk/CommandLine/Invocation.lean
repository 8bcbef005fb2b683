import FeedDesk.CommandLine.Grammar

namespace FeedDesk
namespace CommandLine

/-!
The command lines of the desk: questions on the command line or in a dialogue, the graph service,
counts, imports, and the configuration. The configuration file may be named before or after the
command; the later place counts.
-/

/-- Paths of a certificate and of its key. -/
structure Credentials where
  certificate : Text
  key : Text
  deriving DecidableEq

inductive Command
  | ask (words : List Text) (json : Bool) (language : Option Text)
  | dialogue
  | serve (credentials : Option Credentials)
  | statistics
  | load (path : Text)
  | configuration
  deriving DecidableEq

structure Invocation where
  /-- The path of the configuration file. -/
  configuration : Option Text
  command : Command
  deriving DecidableEq

def configurationFlag : Flag := { name := "config", short := some 'c', effect := .takesPath }

def helpFlag : Flag :=
  { name := "help", short := some 'h', long := some "help", effect := .showsHelp }

def versionFlag : Flag :=
  { name := "version", short := some 'V', long := some "version", effect := .showsVersion }

/-- Flags that every command knows. -/
def commonFlags : List Flag := [configurationFlag, helpFlag]

def commandNames : List Text := ["ask", "shell", "serve", "stats", "import", "config"]

def mainGrammar : Grammar where
  flags := versionFlag :: commonFlags
  commands := "help" :: commandNames

def askGrammar : Grammar where
  flags := [{ name := "json", long := some "json", effect := .toggle },
    { name := "language", long := some "language", effect := .takesText }] ++ commonFlags
  operands := .texts

def serveGrammar : Grammar where
  flags := [{ name := "cert", long := some "cert", effect := .takesPath },
    { name := "key", long := some "key", effect := .takesPath }] ++ commonFlags

def importGrammar : Grammar where
  flags := commonFlags
  operands := .path

/-- A command without flags and operands of its own. -/
def plainGrammar : Grammar where
  flags := commonFlags

namespace Given

def value? (given : Given) (name : Text) : Option Text :=
  given.values.lookup name

end Given

/-- Reads the arguments of a command after its name. -/
def givenTo (grammar : Grammar) (arguments : List Text) : Except UsageError Given := do
  let (given, _) ← grammar.read {} false arguments
  given.settle

def askCommand (given : Given) : Except UsageError Command :=
  if given.operands = [] then .error .missingArgument
  else .ok (.ask given.operands (given.value? "json").isSome (given.value? "language"))

/-- A certificate needs its key, and a key its certificate. -/
def serveCommand (given : Given) : Except UsageError Command :=
  match given.value? "cert", given.value? "key" with
  | some certificate, some key => .ok (.serve (some ⟨certificate, key⟩))
  | none, none => .ok (.serve none)
  | _, _ => .error .missingArgument

def importCommand (given : Given) : Except UsageError Command :=
  match given.operands with
  | [] => .error .missingArgument
  | path :: _ => .ok (.load path)

/-- What is shown when help is asked for by name. -/
def helpOn : List Text → UsageError
  | [] => .help
  | [name] => if mainGrammar.commands.any (· = name) then .help else .unknownCommand
  | _ => .unknownCommand

/-- A command with the configuration file that is named behind it. -/
def commandOf (name : Text) (arguments : List Text) : Except UsageError (Command × Option Text) :=
  let reading (grammar : Grammar) (command : Given → Except UsageError Command) := do
    let given ← givenTo grammar arguments
    let command ← command given
    return (command, given.value? "config")
  if name = "ask" then reading askGrammar askCommand
  else if name = "shell" then reading plainGrammar fun _ => .ok .dialogue
  else if name = "serve" then reading serveGrammar serveCommand
  else if name = "stats" then reading plainGrammar fun _ => .ok .statistics
  else if name = "import" then reading importGrammar importCommand
  else if name = "config" then reading plainGrammar fun _ => .ok .configuration
  else .error (helpOn arguments)

/-- Reads a command line. -/
def Invocation.ofArguments (arguments : List Text) : Except UsageError Invocation := do
  let (given, found) ← mainGrammar.read {} false arguments
  match found with
  | some (name, arguments) =>
    let (command, later) ← commandOf name arguments
    let given ← given.settle
    return { configuration := later <|> given.value? "config", command }
  | none =>
    let given ← given.settle
    if given.values.isEmpty then .error .helpForNothing else .error .missingCommand

end CommandLine
end FeedDesk
