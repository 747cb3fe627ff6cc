import MarkupLint.CommandLine.Switch
import MarkupLint.Report.Json
import MarkupLint.Rule.Catalogue

namespace MarkupLint

/-!
# What the commands print

A report is printed for people, as JSON, or with one row for each violation.  The
list of rules is a table with columns of fixed width.
-/

namespace Report

/-- The colour of the summary, after the worst severity found. -/
def colour (report : Report) : String :=
  if report.hasViolationsAt .error then
    "\x1b[31m"
  else if report.hasViolationsAt .warning then
    "\x1b[33m"
  else
    "\x1b[32m"

/-- The totals of a report in one row. -/
def summary (report : Report) : String :=
  report.colour ++ "Found " ++ toString (report.count .error) ++ " error(s), " ++
    toString (report.count .warning) ++ " warning(s), " ++ toString (report.count .info) ++
    " info(s) in " ++ toString report.filesChecked ++ " file(s)\x1b[0m"

/-- The rows of a report, each ended by a line feed. -/
def render (report : Report) : OutputFormat → Except PrintError String
  | .text =>
      .ok (String.join (report.violations.map (·.detailed ++ "\n")) ++ report.summary ++ "\n")
  | .json => report.toJson.map fun json => String.ofList (Json.render .pretty json) ++ "\n"
  | .compact => .ok (String.join (report.violations.map (·.compact ++ "\n")))

end Report

namespace RuleTable

/-- A text filled up with spaces to a width. -/
def padded (width : Nat) (text : String) : String :=
  text ++ String.ofList (List.replicate (width - text.length) ' ')

/-- One row of the table. -/
def row (code name groups description : String) : String :=
  padded 8 code ++ " " ++ padded 36 name ++ " " ++ padded 10 groups ++ " " ++ description ++ "\n"

/-- The row of a rule. -/
def ruleRow (rule : Rule) : String :=
  row rule.code rule.name (",".intercalate (rule.groups.map RuleGroup.name)) rule.description

/-- The table of the built-in rules with a hint on how to select them. -/
def text : String :=
  "Available rules:\n\n" ++ row "Code" "Name" "Groups" "Description" ++
    String.ofList (List.replicate 90 '-') ++ "\n" ++
    String.join (Rule.catalogue.map ruleRow) ++
    "\nGroups: " ++ ", ".intercalate (RuleGroup.all.map RuleGroup.name) ++ "\n" ++
    "\nUse --rules or --group to select rules, e.g.:\n" ++
    "  rst-lint check --rules no-admin-yaml\n" ++
    "  rst-lint check --group symfony docs/\n"

end RuleTable

end MarkupLint
