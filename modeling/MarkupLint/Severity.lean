namespace MarkupLint

/-!
# Severities

The three severities are ordered: information, warning, error.  Only an error
makes a run fail.
-/

/-- How serious a violation is. -/
inductive Severity where
  | info
  | warning
  | error
  deriving Repr, DecidableEq

namespace Severity

/-- Every severity, the mildest first. -/
def all : List Severity :=
  [info, warning, error]

/-- The name of a severity in reports and configuration files. -/
def name : Severity → String
  | info => "info"
  | warning => "warning"
  | error => "error"

/-- The severity with a given name; names are compared exactly. -/
def ofName? (name : String) : Option Severity :=
  all.find? (·.name == name)

/-- The position of a severity in the order. -/
def rank : Severity → Nat
  | info => 0
  | warning => 1
  | error => 2

/-- Whether a severity is at least as serious as a threshold. -/
def reaches (severity threshold : Severity) : Bool :=
  Nat.ble threshold.rank severity.rank

end Severity

end MarkupLint
