import MarkupLint.Rule
import MarkupLint.Toml.Reader

namespace MarkupLint

/-!
# Configuration

A configuration selects groups of rules, switches single rules on and off,
overrides their severities, and says which files are looked at.

Every setting may be left out.  A file without any analyzer settings excludes
build directories; a file that has some excludes only what it lists.
-/

/-- The settings of one rule. -/
structure RuleSettings where
  enabled : Option Bool := none
  severity : Option Severity := none
  deriving Repr, DecidableEq

/-- Which files are looked at. -/
structure AnalyzerSettings where
  root : String := "."
  exclude : List String := ["**/_build/**"]
  respectGitignore : Bool := true
  deriving Repr, DecidableEq

/-- A configuration. -/
structure Config where
  groups : List RuleGroup := []
  analyzer : AnalyzerSettings := {}
  rules : List (String × RuleSettings) := []
  deriving Repr, DecidableEq

namespace Config

/-- The settings of a rule, if it has any. -/
def settings? (config : Config) (rule : String) : Option RuleSettings :=
  (config.rules.find? (·.1 == rule)).map (·.2)

/-- A rule is enabled unless its settings say otherwise. -/
def isRuleEnabled (config : Config) (rule : String) : Bool :=
  ((config.settings? rule).bind (·.enabled)).getD true

/-- The severity that overrides the one of a rule. -/
def ruleSeverity? (config : Config) (rule : String) : Option Severity :=
  (config.settings? rule).bind (·.severity)

/--
Whether a rule of the given groups is selected: one of its groups is configured,
or none is.
-/
def isGroupSelected (config : Config) (groups : List RuleGroup) : Bool :=
  config.groups.isEmpty || groups.any config.groups.contains

end Config

end MarkupLint
