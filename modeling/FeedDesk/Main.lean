import FeedDesk.CommandLine.Clock
import FeedDesk.CommandLine.Run
import FeedDesk.CommandLine.Usage
import FeedDesk.Disk.Stored
import Std.Time.DateTime.Timestamp

namespace FeedDesk
namespace Terminal

/-!
The program on a real machine, with its files, its clock and its terminal. Catalogs are kept as
texts in files. The machine has no network: translators and oracles never answer, and the graph is
not served.
-/

def outside (text : Text) : String := String.ofList text

/-- The text of a file, unless it cannot be read. -/
def readText (path : Text) : IO (Option Text) := do
  try
    let content ← IO.FS.readFile (outside path)
    return some content.toList
  catch _ => return none

def makeDirectories (path : Text) : IO Bool := do
  try
    IO.FS.createDirAll (outside path)
    return true
  catch _ => return false

def saveCatalog (path : Text) (catalog : Catalog) : IO Unit := do
  if !Disk.isTransient path then
    IO.FS.writeFile (outside path) (outside (Stored.text catalog))

/-- Opens the catalog at a path, and begins an empty one where there is no file. -/
def openCatalog (path : Text) : IO (Except OpenFault Catalog) := do
  if Disk.isTransient path then return .ok {}
  match ← readText path with
  | some text =>
    if text.isEmpty then return .ok {}
    match Stored.catalog? text with
    | some catalog => return .ok catalog
    | none => return .error .noCatalog
  | none =>
    try
      saveCatalog path {}
      return .ok {}
    catch _ => return .error .noFile

def time : IO Text := do
  let now ← Std.Time.Timestamp.now
  return CommandLine.timeText now.toNanosecondsSinceUnixEpoch.toInt.toNat

/-- The variables of the environment that are looked at. -/
def variableNames : List String := [
  "HOME", "XDG_DATA_HOME", "FEED_AGENT__WEB__ADDRESS", "FEED_AGENT__DATABASE__PATH",
  "FEED_AGENT__LANGUAGE__ARABIZI", "FEED_AGENT__ORACLE__HOST", "FEED_AGENT__ORACLE__PORT",
  "FEED_AGENT__ORACLE__MODEL", "FEED_AGENT__ORACLE__TIMEOUT_SECS", "FEED_AGENT__TRANSLATOR__URL",
  "FEED_AGENT__TRANSLATOR__TIMEOUT_SECS"]

def environment : IO Environment := do
  let found ← variableNames.mapM fun name => do
    let value ← IO.getEnv name
    return value.map fun value => (name.toList, value.toList)
  return found.filterMap id

def machine : IO (CommandLine.Machine IO) := do
  return {
    isFile := fun path => return (← readText path).isSome
    readText
    makeDirectories
    openCatalog
    saveCatalog
    time
    environment := ← environment
    translator := fun _ _ => CommandLine.silentTranslator
    oracle := fun _ _ => CommandLine.silentOracle }

/-- Goes on with a dialogue until it ends. -/
partial def converse (desk : Desk Connection) (state : Dialogue.State Connection) : IO Unit := do
  let output ← IO.getStdout
  output.putStr (outside Dialogue.cue)
  output.flush
  let line ← (← IO.getStdin).getLine
  if line.isEmpty then return
  let reply := Dialogue.reply desk state (.ofLine line.toList)
  output.putStr (outside reply.output)
  (← IO.getStderr).putStr (outside reply.error)
  match reply.next with
  | some state => converse desk state
  | none => return

/-- Ends with an error and its exit code. -/
def refuse (message : Text) (code : Nat) : IO UInt32 := do
  (← IO.getStderr).putStrLn ("Error: " ++ outside message)
  return code.toUInt32

def finish : CommandLine.Finish → IO UInt32
  | .printed output success => do
    (← IO.getStdout).putStr (outside output)
    return if success then 0 else 1
  | .dialogue desk session => do
    (← IO.getStdout).putStr (outside (Dialogue.paragraph Dialogue.banner))
    converse desk { session }
    return 0
  | .service _ _ _ _ => refuse "this machine has no network" 1

/-- Shows the help or the version, or says why the command line is refused. -/
def showUsage (usage : CommandLine.UsageError) : IO UInt32 := do
  let channel ← if usage.isAnswer then IO.getStdout else IO.getStderr
  channel.putStrLn (outside usage.text)
  return usage.exitCode.toUInt32

end Terminal
end FeedDesk

def main (arguments : List String) : IO UInt32 := do
  match FeedDesk.CommandLine.Invocation.ofArguments (arguments.map String.toList) with
  | .error usage => FeedDesk.Terminal.showUsage usage
  | .ok invocation =>
    match ← FeedDesk.CommandLine.run (← FeedDesk.Terminal.machine) invocation with
    | .error error => FeedDesk.Terminal.refuse error.message error.exitCode
    | .ok finished => FeedDesk.Terminal.finish finished
