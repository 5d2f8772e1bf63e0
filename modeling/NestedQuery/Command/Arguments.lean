import NestedQuery.Config

/-!
# Command lines

A command line names a command and its options.  An option takes one value,
after an equals sign or as the next argument, and may be given once.  A value
is read when the next option begins or the line ends; an argument that belongs
nowhere is refused at once, so it is reported before a faulty value in front of
it.
-/

namespace NestedQuery.Command

inductive CommandName
  | serve
  | query
  | explain
  deriving DecidableEq

namespace CommandName

def text : CommandName → String
  | .serve => "serve"
  | .query => "query"
  | .explain => "explain"

def ofText? (text : String) : Option CommandName :=
  [CommandName.serve, .query, .explain].find? (·.text == text)

end CommandName

/-- What a command line asks for. -/
inductive Invocation
  | serve (config : Option String) (port : Option UInt16)
  | query (config : Option String) (limit : Option UInt64)
  | explain (config : Option String) (limit : Option UInt64)
  deriving DecidableEq

/-- What help is about. -/
inductive HelpTopic
  | program
  | command (name : CommandName)
  | help
  deriving DecidableEq

/-- Why a command line names no command to run. -/
inductive UsageError
  | help (topic : HelpTopic)
  | version
  | noCommand
  | unknownCommand
  | unknownArgument
  | missingValue
  | unexpectedValue
  | invalidValue
  | repeatedOption
  deriving DecidableEq

/-- The options of a command: its configuration file and a number, which is the
port or the nesting limit. -/
inductive OptionName
  | config
  | number
  deriving DecidableEq

namespace CommandName

/-- The name of the option that takes the command's number. -/
def numberOption : CommandName → String
  | .serve => "port"
  | .query | .explain => "max-nesting-level"

def option? (command : CommandName) (name : String) : Option OptionName :=
  if name = "config" then some .config
  else if name = command.numberOption then some .number
  else none

/-- The number of a text, if the option takes it.  A port is read as a signed
number, so it may be written as a negative zero. -/
def number? (command : CommandName) (text : String) : Option Nat :=
  match command, text.toList with
  | .serve, '-' :: digits =>
      match Text.natural? 10 digits with
      | some 0 => some 0
      | _ => none
  | .serve, text => (Config.natural? text).filter (· < UInt16.size)
  | _, text => (Config.natural? text).filter (· < UInt64.size)

end CommandName

/-- The options read so far, and one whose value is still to be read. -/
structure Options where
  config : Option String := none
  number : Option Nat := none
  pending : Option (OptionName × Option String) := none

namespace Options

/-- Sets an option that is not set yet. -/
def assign (options : Options) (command : CommandName) (name : OptionName)
    (value : String) : Except UsageError Options :=
  match name with
  | .config =>
      if options.config.isSome then .error .repeatedOption
      else if value = "" then .error .missingValue
      else .ok { options with config := some value }
  | .number =>
      if options.number.isSome then .error .repeatedOption
      else
        match command.number? value with
        | some number => .ok { options with number := some number }
        | none => .error .invalidValue

/-- Reads the value of the pending option. -/
def settle (options : Options) (command : CommandName) : Except UsageError Options :=
  match options.pending with
  | none => .ok options
  | some (_, none) => .error .missingValue
  | some (name, some value) =>
      { options with pending := none }.assign command name value

end Options

/-- An argument by its form. -/
inductive Argument
  /-- Two hyphens: no option follows. -/
  | separator
  | long (name : String) (value : Option String)
  | short (flag : Char)
  | plain (text : String)

def Argument.ofText (text : String) : Argument :=
  match text.toList with
  | ['-', '-'] => .separator
  | '-' :: '-' :: rest =>
      let name := String.ofList (rest.takeWhile (· ≠ '='))
      match rest.dropWhile (· ≠ '=') with
      | _ :: value => .long name (some (String.ofList value))
      | [] => .long name none
  | '-' :: flag :: _ => .short flag
  | _ => .plain text

namespace CommandName

/-- The invocation of a command with its options. -/
def invocation (command : CommandName) (options : Options) : Invocation :=
  match command with
  | .serve => .serve options.config (options.number.map Nat.toUInt16)
  | .query => .query options.config (options.number.map Nat.toUInt64)
  | .explain => .explain options.config (options.number.map Nat.toUInt64)

/-- Reads the arguments behind a command. -/
def parseOptions (command : CommandName) (options : Options) :
    List String → Except UsageError Invocation
  | [] => return command.invocation (← options.settle command)
  | text :: rest =>
      match Argument.ofText text with
      | .separator =>
          if rest.isEmpty then return command.invocation (← options.settle command)
          else .error .unknownArgument
      | .long "help" none => do
          let _ ← options.settle command
          throw (.help (.command command))
      | .long "help" (some _) => .error .unexpectedValue
      | .long name value =>
          match command.option? name, value with
          | none, _ => .error .unknownArgument
          | some name, none => do
              let options ← options.settle command
              command.parseOptions { options with pending := some (name, none) } rest
          | some name, some value => do
              let options ← options.settle command
              let options ← options.assign command name value
              command.parseOptions options rest
      | .short 'h' => do
          let _ ← options.settle command
          throw (.help (.command command))
      | .short _ => .error .unknownArgument
      | .plain text =>
          match options.pending with
          | some (name, none) =>
              command.parseOptions
                { options with pending := some (name, some text) } rest
          | _ => .error .unknownArgument

end CommandName

/-- What the arguments behind `help` ask about. -/
def helpTopic : List String → Except UsageError HelpTopic
  | [] => .ok .program
  | ["help"] => .ok .help
  | [name] =>
      match CommandName.ofText? name with
      | some command => .ok (.command command)
      | none => .error .unknownCommand
  | _ => .error .unknownCommand

/-- Reads the arguments behind the program's name. -/
def parseArguments : List String → Except UsageError Invocation
  | [] => .error .noCommand
  | text :: rest =>
      match Argument.ofText text with
      | .separator =>
          match rest with
          | [] => .error .noCommand
          | name :: _ =>
              if name = "help" ∨ (CommandName.ofText? name).isSome then
                .error .unknownArgument
              else .error .unknownCommand
      | .long "help" none | .short 'h' => .error (.help .program)
      | .long "version" none | .short 'V' => .error .version
      | .long "help" (some _) | .long "version" (some _) => .error .unexpectedValue
      | .long _ _ | .short _ => .error .unknownArgument
      | .plain "help" => do throw (.help (← helpTopic rest))
      | .plain name =>
          match CommandName.ofText? name with
          | some command => command.parseOptions {} rest
          | none => .error .unknownCommand

end NestedQuery.Command
