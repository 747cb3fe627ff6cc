import MarkupLint.Violation

namespace MarkupLint

/-!
# Reports

The result of a run: the violations in order and the number of files that were
looked at.
-/

/-- What a run found. -/
structure Report where
  violations : List Violation
  filesChecked : Nat
  deriving Repr, DecidableEq

namespace Report

/-- Whether some violation is at least as serious as the threshold. -/
def hasViolationsAt (report : Report) (threshold : Severity) : Bool :=
  report.violations.any (·.severity.reaches threshold)

/-- Whether some violation is an error. -/
def hasErrors (report : Report) : Bool :=
  report.hasViolationsAt .error

/-- The number of violations of one severity. -/
def count (report : Report) (severity : Severity) : Nat :=
  report.violations.countP (·.severity == severity)

end Report

end MarkupLint
