import FeedDesk.CommandLine.Grammar

namespace FeedDesk
namespace CommandLine

/-!
What is shown for a command line that is not carried out: the help or the version, which is no
failure, or the reason why the command line is refused.
-/

def versionText : Text := "feed-agent 0.1.0"

def helpText : Text := Text.joined "\n" [
  "Ask questions about the feed products catalog in English or Arabic",
  "",
  "Usage: feed-agent [OPTIONS] <COMMAND>",
  "",
  "Commands:",
  "  ask     Answer a single question and exit",
  "  shell   Start an interactive question loop",
  "  serve   Serve the GraphQL API",
  "  stats   Print catalog statistics",
  "  import  Load products and restrictions from a JSON fixture",
  "  config  Print the effective configuration",
  "  help    Print this message or the help of the given subcommand(s)",
  "",
  "Options:",
  "  -c <CONFIG_PATH>  Path to the local configuration TOML file",
  "  -h, --help        Print help",
  "  -V, --version     Print version"]

namespace UsageError

/-- The help and the version are asked for and no failure. -/
def isAnswer : UsageError → Bool
  | help => true
  | version => true
  | _ => false

def exitCode (usage : UsageError) : Nat :=
  if usage.isAnswer then 0 else 2

def text : UsageError → Text
  | help => helpText
  | helpForNothing => helpText
  | version => versionText
  | missingCommand => "a command is required"
  | missingArgument => "a required argument is missing"
  | unknownArgument => "an argument is not expected"
  | unknownCommand => "the command is not known"
  | repeatedArgument => "an argument is given more than once"
  | invalidValue => "a value is missing"
  | unneededValue => "a value is given to a flag that takes none"

end UsageError
end CommandLine
end FeedDesk
