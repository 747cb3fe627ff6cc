import MarkupLint.Rule
import MarkupLint.Text.ControlSequence

namespace MarkupLint

/-!
# Parameters of the command line

The program has three commands.  Which switches are understood depends on where
they stand: before the command, or after it in the scope of that command.
-/

/-- How a report is printed. -/
inductive OutputFormat where
  | text
  | json
  | compact
  deriving Repr, DecidableEq

namespace OutputFormat

/-- The format with a given name. -/
def ofName? (name : String) : Option OutputFormat :=
  [("text", text), ("json", json), ("compact", compact)].lookup name

end OutputFormat

/-- A switch of the command line. -/
inductive Switch where
  | verbose
  | config
  | format
  | rules
  | group
  | exclude
  | force
  | help
  | version
  deriving Repr, DecidableEq

namespace Switch

/-- The name of a switch after two dashes. -/
def longName : Switch → String
  | verbose => "verbose"
  | config => "config"
  | format => "format"
  | rules => "rules"
  | group => "group"
  | exclude => "exclude"
  | force => "force"
  | help => "help"
  | version => "version"

/-- The letter of a switch after one dash. -/
def letter? : Switch → Option Char
  | verbose => some 'v'
  | config => some 'c'
  | format => some 'f'
  | rules => none
  | group => some 'g'
  | exclude => some 'e'
  | force => none
  | help => some 'h'
  | version => some 'V'

/-- What the value of a switch is called, if it takes one. -/
def valueName? : Switch → Option String
  | config => some "CONFIG"
  | format => some "FORMAT"
  | rules => some "RULES"
  | group => some "GROUP"
  | exclude => some "EXCLUDE"
  | _ => none

/-- Whether a switch may be given several times. -/
def isRepeatable : Switch → Bool
  | group => true
  | exclude => true
  | _ => false

end Switch

/-- Something that the command line gives a value to. -/
inductive Parameter where
  | switch (named : Switch)
  | path
  deriving Repr, DecidableEq

namespace Parameter

/-- How a parameter is shown in messages. -/
def usage : Parameter → String
  | path => "[PATH]"
  | switch named =>
      match named.valueName? with
      | none => "--" ++ named.longName
      | some value => "--" ++ named.longName ++ " <" ++ value ++ ">"

/-- Whether a parameter may be given several times. -/
def isRepeatable : Parameter → Bool
  | path => false
  | switch named => named.isRepeatable

end Parameter

/-- A part of the command line with its own parameters. -/
inductive Scope where
  | program
  | check
  | listRules
  | init
  deriving Repr, DecidableEq

namespace Scope

/-- The command with a given name. -/
def ofCommandName? (name : String) : Option Scope :=
  [("check", check), ("list-rules", listRules), ("init", init)].lookup name

/-- The switches that are understood in a scope. -/
def switches : Scope → List Switch
  | program => [.verbose, .config, .help, .version]
  | check => [.format, .rules, .group, .exclude, .verbose, .config, .help]
  | listRules => [.verbose, .config, .help]
  | init => [.force, .verbose, .config, .help]

/-- The switch with a given long name. -/
def switchNamed? (scope : Scope) (name : String) : Option Switch :=
  scope.switches.find? (·.longName == name)

/-- The switch with a given letter. -/
def switchLettered? (scope : Scope) (letter : Char) : Option Switch :=
  scope.switches.find? (·.letter? == some letter)

end Scope

/-- What is wrong with a command line. -/
inductive UsageError where
  | unexpectedArgument (argument : String)
  | unrecognizedCommand (name : String)
  | missingCommand
  | valueRequired (parameter : Parameter)
  | invalidValue (parameter : Parameter) (value : String)
  | unknownGroup (name : String)
  | unexpectedValue (parameter : Parameter) (value : String)
  | usedMultipleTimes (parameter : Parameter)
  deriving Repr, DecidableEq

namespace UsageError

/-- A part of the command line, in quotes and highlighted for a terminal. -/
def highlighted (part : String) : String :=
  "'\x1b[33m" ++ part ++ "\x1b[0m'"

/-- The description of a value that a parameter does not take. -/
def invalidValueMessage (parameter : Parameter) (value : String) : String :=
  "invalid value " ++ highlighted value ++ " for '" ++ parameter.usage ++ "'"

/-- The description of an error for a terminal. -/
def message : UsageError → String
  | unexpectedArgument argument => "unexpected argument " ++ highlighted argument ++ " found"
  | unrecognizedCommand name => "unrecognized subcommand " ++ highlighted name
  | missingCommand => "'rst-lint' requires a subcommand but one was not provided"
  | valueRequired parameter =>
      "a value is required for '" ++ parameter.usage ++ "' but none was supplied"
  | invalidValue parameter value => invalidValueMessage parameter value
  | unknownGroup name =>
      invalidValueMessage (.switch .group) name ++ ": unknown group '" ++ name ++
        "' (expected one of: " ++ ", ".intercalate (RuleGroup.all.map RuleGroup.name) ++ ")"
  | unexpectedValue parameter value =>
      "unexpected value " ++ highlighted value ++ " for '" ++ parameter.usage ++
        "' found; no more were expected"
  | usedMultipleTimes parameter =>
      "the argument '" ++ parameter.usage ++ "' cannot be used multiple times"

/-- What points to further help, for a terminal. -/
def hint : String :=
  "For more information, try '\x1b[1m--help\x1b[0m'."

/-- The text printed for an error, without what would control a terminal. -/
def text (error : UsageError) : String :=
  String.ofList (plainText ("error: " ++ error.message ++ "\n\n" ++ hint).toList)

end UsageError

end MarkupLint
