import MarkupLint.Config

namespace MarkupLint

/-!
# Reading a configuration

A configuration is decoded from the table that a TOML text defines.  A record is
given as a table or as the array of its fields; in both forms every field may be
missing and further ones are ignored.  A date or time counts as a record without
any of the fields.  A name is given as a string or as a table
whose only key is the name and whose value is empty.
-/

namespace Toml.Value

/-- The text of a string. -/
def text? : Value → Option String
  | string text => some text
  | _ => none

/-- The flag of a boolean. -/
def flag? : Value → Option Bool
  | boolean flag => some flag
  | _ => none

/-- The items of an array. -/
def items? : Value → Option (List Value)
  | array items => some items
  | _ => none

/-- The name that a value stands for. -/
def name? : Value → Option String
  | string name => some name
  | table [(name, table [])] => some name
  | table [(name, array [])] => some name
  | _ => none

/-- The fields of a record with the given names, as far as they are there. -/
def fields? (names : List String) : Value → Option (List (Option Value))
  | table entries => some (names.map fun name => lookup? name entries)
  | array items => some (names.zipIdx.map fun (_, index) => items[index]?)
  | moment => some (names.map fun _ => none)
  | _ => none

/-- Decode a field that may be missing. -/
def field? (decode? : Value → Option α) (default : α) : Option Value → Option α
  | none => some default
  | some value => decode? value

end Toml.Value

open Toml (Value)

namespace RuleGroup

/-- The group that a value names. -/
def ofToml? (value : Value) : Option RuleGroup :=
  value.name?.bind ofName?

end RuleGroup

namespace Severity

/-- The severity that a value names. -/
def ofToml? (value : Value) : Option Severity :=
  value.name?.bind ofName?

end Severity

namespace RuleSettings

/-- The settings of a rule. -/
def ofToml? (value : Value) : Option RuleSettings :=
  match value.fields? ["enabled", "severity"] with
  | some [enabled, severity] => do
      let enabled ← Value.field? (·.flag?.map some) none enabled
      let severity ← Value.field? (Severity.ofToml? · |>.map some) none severity
      return ⟨enabled, severity⟩
  | _ => none

end RuleSettings

namespace AnalyzerSettings

/-- The patterns of a list. -/
def patterns? (value : Value) : Option (List String) := do
  let items ← value.items?
  items.mapM Value.text?

/-- The analyzer settings; without a list of patterns nothing is excluded. -/
def ofToml? (value : Value) : Option AnalyzerSettings :=
  match value.fields? ["root", "exclude", "respect_gitignore"] with
  | some [root, exclude, respectGitignore] => do
      let root ← Value.field? Value.text? "." root
      let exclude ← Value.field? patterns? [] exclude
      let respectGitignore ← Value.field? Value.flag? true respectGitignore
      return ⟨root, exclude, respectGitignore⟩
  | _ => none

end AnalyzerSettings

namespace Config

/-- The selected groups. -/
def groups? (value : Value) : Option (List RuleGroup) := do
  let items ← value.items?
  items.mapM RuleGroup.ofToml?

/-- The settings of the configured rules. -/
def rules? : Value → Option (List (String × RuleSettings))
  | .table entries =>
      entries.mapM fun (name, value) => (RuleSettings.ofToml? value).map (name, ·)
  | _ => none

/-- The configuration given by the entries of a table. -/
def ofToml? (entries : List (String × Value)) : Option Config := do
  let groups ← Value.field? groups? [] (Value.lookup? "groups" entries)
  let analyzer ← Value.field? AnalyzerSettings.ofToml? {} (Value.lookup? "analyzer" entries)
  let rules ← Value.field? rules? [] (Value.lookup? "rules" entries)
  return ⟨groups, analyzer, rules⟩

/-- The configuration written in a text. -/
def parse? (text : List Char) : Option Config := do
  let entries ← Toml.parse? text
  ofToml? entries

end Config

end MarkupLint
