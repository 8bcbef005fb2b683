import FeedDesk.Net.SocketAddress
import FeedDesk.Number.Word
import FeedDesk.Settings.Conversion
import FeedDesk.Toml.Document

namespace FeedDesk

/-!
The settings of the desk. Three layers decide them: the defaults, a configuration file, and the
environment, each over the one before. A variable of the environment counts when its name begins
with the prefix, in any case; the rest of its name, with double underscores as dots, is the path of
the setting. The translator and the oracle are there only when an address and a model are given.
-/

structure OracleSettings where
  host : Text
  port : Nat
  model : Option Text
  /-- Seconds that the oracle may take. -/
  timeout : Nat
  deriving DecidableEq

structure TranslatorSettings where
  url : Option Text
  /-- Seconds that the translator may take. -/
  timeout : Nat
  deriving DecidableEq

structure Settings where
  /-- Where the graph is served. -/
  address : SocketAddress
  databasePath : Text
  /-- Arabic in Latin letters is recognised. -/
  arabizi : Bool
  oracle : OracleSettings
  translator : TranslatorSettings
  deriving DecidableEq

/-- Variables with their values. -/
abbrev Environment := List (Text × Text)

namespace Environment

/-- The value of a variable; of several with one name, the last. -/
def value? (environment : Environment) (name : Text) : Option Text :=
  (environment.reverse.find? fun entry => entry.1 == name).map (·.2)

/-- The directory for data of programs, when the environment tells it. -/
def dataDirectory? (environment : Environment) : Option Text :=
  match environment.value? "XDG_DATA_HOME" with
  | some ('/' :: path) => some ('/' :: path)
  | _ =>
    match environment.value? "HOME" with
    | some (char :: home) =>
      some (Text.trimEndBy (· == '/') (char :: home) ++ "/.local/share")
    | _ => none

end Environment

namespace Settings

/-- Where the catalog is kept unless the settings say otherwise. -/
def defaultDatabasePath (environment : Environment) : Text :=
  let file : Text := "feed_products.db"
  match environment.dataDirectory? with
  | some directory => directory ++ "/feed-agent/" ++ file
  | none => file

def defaults (environment : Environment) : Toml :=
  .table [
    ("web", .table [("address", .string "127.0.0.1:8000")]),
    ("database", .table [("path", .string (defaultDatabasePath environment))]),
    ("language", .table [("arabizi", .boolean true)]),
    ("oracle", .table [("host", .string "http://127.0.0.1"), ("port", .integer 11434),
      ("timeout_secs", .integer 20)]),
    ("translator", .table [("timeout_secs", .integer 10)])]

/-- The names of a path with dots between them; a name without characters makes it no path. -/
def path? (key : Text) : Option (List Text) :=
  let names := key.splitBy (· == '.')
  if names.all fun name => !name.isEmpty && name.all Toml.isKeyChar then some names else none

/-- Lays a value over the settings under a name, which may be a path. -/
def layOver (lower : Toml) (name : Text) (value : Toml) : Toml :=
  Toml.laidOver (some lower) (Toml.nested value ((path? name).getD [name]))

/-- The prefix of variables that hold settings. -/
def variablePrefix : Text := "feed_agent__"

/-- A text with a dot for every two underscores in a row. -/
def dotted : Text → Text
  | '_' :: '_' :: text => '.' :: dotted text
  | char :: text => char :: dotted text
  | [] => []

/-- The name of the setting that a variable holds. -/
def variableKey? (name : Text) : Option Text :=
  (Text.strip? variablePrefix name.lower).map dotted

/-- The settings that the environment holds. -/
def environmentSettings (environment : Environment) : List (Text × Toml) :=
  environment.filterMap fun (name, value) =>
    (variableKey? name).map fun key => (key, .string value)

/-- All layers over each other. The file is given by its table. -/
def layered (environment : Environment) (file : Option Toml) : Toml :=
  let entries := (file.map Toml.members).getD [] ++ environmentSettings environment
  entries.foldl (fun lower (name, value) => layOver lower name value) (defaults environment)

/-- The values of the fields of a section. A list gives them in order and must not end early. -/
def fields? (root : Toml) (title : Text) (names : List Text) : Option (List (Option Toml)) :=
  match root.member? title with
  | some (.table members) => some (names.map fun name => members.lookup name)
  | some (.array items) =>
    if names.length ≤ items.length then some ((items.take names.length).map some) else none
  | _ => none

/-- A field that may be missing. -/
def optional? {α : Type} (read : Toml → Option α) : Option Toml → Option (Option α)
  | none => some none
  | some value => (read value).map some

/-- One more than the largest port. -/
def portLimit : Nat := 65536

def oracle? (root : Toml) : Option OracleSettings := do
  match ← fields? root "oracle" ["host", "port", "model", "timeout_secs"] with
  | [host, port, model, timeout] =>
    return {
      host := ← host.bind Toml.asText?
      port := ← port.bind (Toml.asCount? portLimit)
      model := ← optional? Toml.asText? model
      timeout := ← timeout.bind (Toml.asCount? wordLimit) }
  | _ => none

def translator? (root : Toml) : Option TranslatorSettings := do
  match ← fields? root "translator" ["url", "timeout_secs"] with
  | [url, timeout] =>
    return {
      url := ← optional? Toml.asText? url
      timeout := ← timeout.bind (Toml.asCount? wordLimit) }
  | _ => none

/-- The one field of a section. -/
def single? (root : Toml) (title name : Text) : Option Toml := do
  match ← fields? root title [name] with
  | [value] => value
  | _ => none

/-- Reads the settings off a table. -/
def ofTable? (root : Toml) : Option Settings := do
  return {
    address := ← (← (← single? root "web" "address").asText?) |> SocketAddress.ofText?
    databasePath := ← (← single? root "database" "path").asText?
    arabizi := ← (← single? root "language" "arabizi").asBoolean?
    oracle := ← oracle? root
    translator := ← translator? root }

/-- The settings from the environment and the text of a configuration file, if one is used. -/
def load? (environment : Environment) (file : Option Text) : Option Settings :=
  match file with
  | none => ofTable? (layered environment none)
  | some text => (Toml.ofText? text).bind fun table => ofTable? (layered environment (some table))

/-- A line that gives a text to a name. -/
def textLine (name value : Text) : Text :=
  name ++ " = " ++ Toml.written value

def countLine (name : Text) (value : Nat) : Text :=
  name ++ " = " ++ Text.ofNat value

/-- A section under its heading. -/
def sectionText (name : Text) (lines : List Text) : Text :=
  Text.joined "\n" (('[' :: (name ++ [']'])) :: lines) ++ "\n"

/-- The settings as a configuration file. Whole numbers of such a file are signed, so more seconds
cannot be written. -/
def text? (settings : Settings) : Option Text :=
  if signedLimit ≤ settings.oracle.timeout ∨ signedLimit ≤ settings.translator.timeout then none
  else
    let oracle := settings.oracle
    let translator := settings.translator
    let truth : Text := if settings.arabizi then "true" else "false"
    some (Text.joined "\n" [
      sectionText "web" [textLine "address" settings.address.text],
      sectionText "database" [textLine "path" settings.databasePath],
      sectionText "language" ["arabizi = " ++ truth],
      sectionText "oracle" ([textLine "host" oracle.host, countLine "port" oracle.port] ++
        oracle.model.toList.map (textLine "model") ++ [countLine "timeout_secs" oracle.timeout]),
      sectionText "translator" (translator.url.toList.map (textLine "url") ++
        [countLine "timeout_secs" translator.timeout])])

end Settings
end FeedDesk
