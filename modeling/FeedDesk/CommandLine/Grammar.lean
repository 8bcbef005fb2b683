import FeedDesk.Text.Basic

namespace FeedDesk
namespace CommandLine

/-!
How the arguments of one command are read. An argument that begins with two dashes is a long flag,
one that begins with a single dash a run of short flags, and every other one is the value of the
flag before it, the name of a command, or an operand. After a lone pair of dashes all arguments are
operands. A flag may be given once. A value is taken note of at once but checked only when the next
flag or operand, or the end, shows that it is complete.
-/

/-- Why a command line cannot be carried out, or what is shown in its place. -/
inductive UsageError
  | help
  /-- The help is shown because nothing was given. -/
  | helpForNothing
  | version
  | missingCommand
  | missingArgument
  | unknownArgument
  | unknownCommand
  | repeatedArgument
  /-- A value is missing, or is empty where it must not be. -/
  | invalidValue
  /-- A value is given to a flag that takes none. -/
  | unneededValue
  deriving DecidableEq

/-- What a flag does. -/
inductive Effect
  | toggle
  | takesText
  /-- Takes a text that must not be empty. -/
  | takesPath
  | showsHelp
  | showsVersion
  deriving DecidableEq

structure Flag where
  name : Text
  short : Option Char := none
  long : Option Text := none
  effect : Effect
  deriving DecidableEq

/-- How many operands a command takes. -/
inductive Operands
  | nothing
  /-- One, which must not be empty. -/
  | path
  | texts
  deriving DecidableEq

structure Grammar where
  flags : List Flag
  operands : Operands := .nothing
  commands : List Text := []

/-- What waits for the next argument. -/
inductive Pending
  | nothing
  | awaiting (flag : Flag)
  | flag (flag : Flag) (value : Text)
  | path (value : Text)
  deriving DecidableEq

structure Given where
  /-- Flags by name with their values. -/
  values : List (Text × Text) := []
  operands : List Text := []
  pending : Pending := .nothing

namespace Given

/-- Takes a flag with its value. -/
def addFlag (given : Given) (flag : Flag) (value : Text) : Except UsageError Given :=
  if given.values.any fun (name, _) => name == flag.name then .error .repeatedArgument
  else if flag.effect = .takesPath ∧ value = [] then .error .invalidValue
  else .ok { given with values := given.values ++ [(flag.name, value)], pending := .nothing }

/-- Checks and takes what is pending. -/
def settle (given : Given) : Except UsageError Given :=
  match given.pending with
  | .nothing => .ok given
  | .awaiting _ => .error .invalidValue
  | .flag flag value => given.addFlag flag value
  | .path value =>
    if value = [] then .error .invalidValue
    else .ok { given with operands := given.operands ++ [value], pending := .nothing }

/-- An operand has been given, whether it is checked or not. -/
def hasOperand (given : Given) : Bool :=
  !given.operands.isEmpty || (match given.pending with
    | .path _ => true
    | _ => false)

/-- Takes a flag that has no value beside it. -/
def takeBare (given : Given) (flag : Flag) : Except UsageError Given := do
  let given ← given.settle
  match flag.effect with
  | .toggle => given.addFlag flag []
  | .takesText => .ok { given with pending := .awaiting flag }
  | .takesPath => .ok { given with pending := .awaiting flag }
  | .showsHelp => .error .help
  | .showsVersion => .error .version

/-- Takes a flag with a value written beside it. -/
def takeWith (given : Given) (flag : Flag) (value : Text) : Except UsageError Given :=
  match flag.effect with
  | .takesText => given.settle.bind fun given => given.addFlag flag value
  | .takesPath => given.settle.bind fun given => given.addFlag flag value
  | _ => .error .unneededValue

end Given

namespace Grammar

/-- Takes a long flag, given without its dashes. -/
def takeLong (grammar : Grammar) (given : Given) (written : Text) : Except UsageError Given :=
  let (name, value?) := match Text.cut? "=" written with
    | some (name, value) => (name, some value)
    | none => (written, none)
  match grammar.flags.find? fun flag => flag.long == some name with
  | none => .error .unknownArgument
  | some flag =>
    match value? with
    | none => given.takeBare flag
    | some value => given.takeWith flag value

/-- Takes a run of short flags; what follows a flag that takes a value is its value. -/
def takeShort (grammar : Grammar) (given : Given) : Text → Except UsageError Given
  | [] => .ok given
  | char :: rest =>
    match grammar.flags.find? fun flag => flag.short == some char with
    | none => .error .unknownArgument
    | some flag =>
      if flag.effect = .takesText ∨ flag.effect = .takesPath then
        match rest with
        | [] => given.takeBare flag
        | '=' :: value => given.takeWith flag value
        | value => given.takeWith flag value
      else (given.takeBare flag).bind fun given => takeShort grammar given rest

/-- The error for an argument that has no place. -/
def strayError (grammar : Grammar) (onlyOperands : Bool) (argument : Text) : UsageError :=
  if grammar.commands = [] then .unknownArgument
  else if onlyOperands ∧ argument ∈ grammar.commands then .unknownArgument
  else .unknownCommand

def takeOperand (grammar : Grammar) (given : Given) (onlyOperands : Bool) (argument : Text) :
    Except UsageError Given :=
  match grammar.operands with
  | .nothing => .error (grammar.strayError onlyOperands argument)
  | .path =>
    if given.hasOperand then .error (grammar.strayError onlyOperands argument)
    else given.settle.map fun given => { given with pending := .path argument }
  | .texts => given.settle.map fun given =>
      { given with operands := given.operands ++ [argument] }

/-- Reads arguments up to the name of a command; the result holds the name and what follows it. -/
def read (grammar : Grammar) (given : Given) (onlyOperands : Bool) :
    List Text → Except UsageError (Given × Option (Text × List Text))
  | [] => .ok (given, none)
  | argument :: arguments =>
    if onlyOperands then do
      let given ← grammar.takeOperand given true argument
      read grammar given true arguments
    else
      match given.pending, argument with
      | _, ['-', '-'] => read grammar given true arguments
      | _, '-' :: '-' :: name => do
        let given ← grammar.takeLong given name
        read grammar given false arguments
      | _, '-' :: char :: chars => do
        let given ← grammar.takeShort given (char :: chars)
        read grammar given false arguments
      | .awaiting flag, value =>
        read grammar { given with pending := .flag flag value } false arguments
      | _, argument =>
        if argument ∈ grammar.commands then .ok (given, some (argument, arguments))
        else do
          let given ← grammar.takeOperand given false argument
          read grammar given false arguments

end Grammar
end CommandLine
end FeedDesk
