import MarkupLint.Context
import MarkupLint.Severity

namespace MarkupLint

/-!
# Rules

A rule is a check of one line of a document together with what is needed to
report it.  The check sees the whole document, so that it can look at the
context of the line, and answers with a message when the line is at fault.
-/

/-- A family of rules that are selected together. -/
inductive RuleGroup where
  | symfony
  | sonata
  deriving Repr, DecidableEq

namespace RuleGroup

/-- Every group. -/
def all : List RuleGroup :=
  [symfony, sonata]

/-- The name of a group. -/
def name : RuleGroup → String
  | symfony => "symfony"
  | sonata => "sonata"

/-- The group with exactly the given name. -/
def ofName? (name : String) : Option RuleGroup :=
  all.find? (·.name == name)

/-- The group with the given name, whatever the case of its ASCII letters. -/
def ofNameIgnoringCase? (name : String) : Option RuleGroup :=
  all.find? fun group => group.name.toList == name.toList.map Char.toLower

end RuleGroup

/-- A check that is run at every line of a document. -/
structure Rule where
  name : String
  code : String
  description : String := ""
  groups : List RuleGroup := []
  severity : Severity := .error
  check : Document → Nat → Option String

end MarkupLint
