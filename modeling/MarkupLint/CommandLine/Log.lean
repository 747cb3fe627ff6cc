import MarkupLint.Text.Quoted

namespace MarkupLint

/-!
# Log records

A run describes its progress in log records.  A record has a level of detail and
comes from one part of the program, and its message shows control characters in
an escaped form so that a terminal is not affected by them.
-/

/-- How detailed a log record is. -/
inductive LogLevel where
  | error
  | warning
  | info
  | debug
  | trace
  deriving Repr, DecidableEq

namespace LogLevel

/-- The name of a level in the log. -/
def name : LogLevel → String
  | error => "ERROR"
  | warning => "WARN"
  | info => "INFO"
  | debug => "DEBUG"
  | trace => "TRACE"

/-- The position of a level, which grows with the detail. -/
def rank : LogLevel → Nat
  | error => 1
  | warning => 2
  | info => 3
  | debug => 4
  | trace => 5

/-- Every level, the least detailed first. -/
def all : List LogLevel :=
  [error, warning, info, debug, trace]

end LogLevel

/-- The parts of the program that write log records. -/
inductive LogSource where
  | configuration
  | command
  | analysis
  deriving Repr, DecidableEq

namespace LogSource

/-- What a part of the program is called in a log filter. -/
def target : LogSource → String
  | configuration => "rst_lint::config_resolver"
  | command => "rst_lint::commands::check"
  | analysis => "rst_lint_core::analyzer"

end LogSource

/-- One record of the log. -/
structure LogRecord where
  level : LogLevel
  source : LogSource
  message : String
  deriving Repr, DecidableEq

namespace LogRecord

/-- A character of a message; those that may control a terminal are escaped. -/
def escape (character : Char) : List Char :=
  let value := character.toNat
  if character ∈ ['\x07', '\x08', '\x0c', '\x1b', '\x7f'] then
    ['\\', 'x', digitCharacter (value / 16), digitCharacter (value % 16)]
  else if 0x80 ≤ value ∧ value ≤ 0x9F then
    escapeCodePoint character
  else
    [character]

/-- The row of a record in the log. -/
def row (record : LogRecord) : String :=
  record.level.name ++ " " ++ String.ofList (record.message.toList.flatMap escape)

end LogRecord

end MarkupLint
