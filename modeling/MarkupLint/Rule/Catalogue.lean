import MarkupLint.Rule.ExplicitPhpBlock
import MarkupLint.Rule.LegacyAdminFile

namespace MarkupLint

/-!
# The catalogue of rules

The built-in rules in the order in which they are run, and the two ways to pick
from them: by group, and by name or code.
-/

namespace Rule

/-- The built-in rules. -/
def catalogue : List Rule :=
  [ExplicitPhpBlock.rule .error, LegacyAdminFile.rule]

/-- The built-in rules of a group. -/
def ofGroup (group : RuleGroup) : List Rule :=
  catalogue.filter (·.groups.contains group)

/-- The built-in rule with the given name or code. -/
def ofNameOrCode? (name : String) : Option Rule :=
  catalogue.find? fun rule => rule.name == name || rule.code == name

end Rule

end MarkupLint
