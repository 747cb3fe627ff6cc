import MarkupLint.Files.Path
import MarkupLint.Severity

namespace MarkupLint

/-!
# Violations

A violation is one message of one rule at one line.  It carries what a report
prints, so that nothing has to be looked up again.
-/

/-- A line of a file, counted from one. -/
structure Location where
  file : Path
  line : Nat
  deriving Repr, DecidableEq

namespace Location

/-- The location of the line with the given index, which counts from zero. -/
def ofIndex (file : Path) (index : Nat) : Location :=
  ⟨file, index + 1⟩

end Location

/-- A message of a rule at a location. -/
structure Violation where
  code : String
  rule : String
  severity : Severity
  location : Location
  message : String
  deriving Repr, DecidableEq

namespace Violation

/-- The violation over two rows, as a report for people shows it. -/
def detailed (violation : Violation) : String :=
  violation.code ++ " " ++ violation.rule ++ " at " ++
    violation.location.file.toString ++ ":" ++ toString violation.location.line ++ "\n  " ++
    violation.severity.name ++ ": " ++ violation.message ++ "\n"

/-- The violation on one row. -/
def compact (violation : Violation) : String :=
  violation.location.file.toString ++ ":" ++ toString violation.location.line ++ ": " ++
    violation.severity.name ++ " [" ++ violation.code ++ "] " ++ violation.message

end Violation

end MarkupLint
