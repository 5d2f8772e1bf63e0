import NestedQuery.Command.Arguments
import NestedQuery.Http.Server

/-!
# Help

The texts that describe the program and its commands, and the line that tells
its version.
-/

namespace NestedQuery.Command

def programName : String := "flatquery"

def versionLine : String := programName ++ " " ++ Http.version ++ "\n"

namespace CommandName

def summary : CommandName → String
  | .serve => "Start the HTTP server"
  | .query => "Resolve one request read from stdin and print the records"
  | .explain => "Print the decomposition plan for a request read from stdin"

/-- The lines that describe the options of a command. -/
def optionLines : CommandName → List String
  | .serve =>
      ["      --config <CONFIG>  Path to configuration file",
        "      --port <PORT>      Port to listen on, overriding configuration and environment",
        "  -h, --help             Print help"]
  | .query | .explain =>
      ["      --config <CONFIG>                        Path to configuration file",
        "      --max-nesting-level <MAX_NESTING_LEVEL>  " ++
          "Nesting limit for requests that do not carry one",
        "  -h, --help                                   Print help"]

end CommandName

def HelpTopic.lines : HelpTopic → List String
  | .program =>
      ["Validates nested boolean filters and decomposes them into queries " ++
          "a depth-limited remote database can run",
        "", "Usage: " ++ programName ++ " <COMMAND>", "", "Commands:",
        "  serve    " ++ CommandName.serve.summary,
        "  query    " ++ CommandName.query.summary,
        "  explain  " ++ CommandName.explain.summary,
        "  help     Print this message or the help of the given subcommand(s)",
        "", "Options:", "  -h, --help     Print help", "  -V, --version  Print version"]
  | .command name =>
      [name.summary, "", "Usage: " ++ programName ++ " " ++ name.text ++ " [OPTIONS]",
        "", "Options:"] ++ name.optionLines
  | .help =>
      ["Print this message or the help of the given subcommand(s)", "",
        "Usage: " ++ programName ++ " help [COMMAND]...", "", "Arguments:",
        "  [COMMAND]...  Print help for the subcommand(s)"]

def HelpTopic.text (topic : HelpTopic) : String :=
  String.join (topic.lines.map (· ++ "\n"))

/-- The one line that tells why a command line is refused. -/
def UsageError.message : UsageError → String
  | .help topic => topic.text
  | .version => versionLine
  | .noCommand => HelpTopic.program.text
  | .unknownCommand => "error: unrecognized subcommand\n"
  | .unknownArgument => "error: unexpected argument found\n"
  | .missingValue => "error: a value is required but none was supplied\n"
  | .unexpectedValue => "error: unexpected value for an argument\n"
  | .invalidValue => "error: invalid value for an argument\n"
  | .repeatedOption => "error: an argument cannot be used multiple times\n"

/-- Whether the text is what was asked for. -/
def UsageError.isAnswer : UsageError → Bool
  | .help _ | .version => true
  | _ => false

end NestedQuery.Command
