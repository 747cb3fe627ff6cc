namespace MarkupLint

/-!
# The template of a configuration file

The configuration that a new project starts with.  It spells out the defaults and
shows the settings that may be changed.
-/

namespace ConfigTemplate

/-- The name of the file that is created. -/
def fileName : String := "rst-lint.toml"

/-- The text of the file. -/
def text : String :=
  "# rst-lint configuration\n" ++
  "\n" ++
  "# Rule groups to run (default: all groups)\n" ++
  "# groups = [\"symfony\"]\n" ++
  "\n" ++
  "[analyzer]\n" ++
  "# Root directory to analyze (default: current directory)\n" ++
  "# root = \"./docs\"\n" ++
  "\n" ++
  "# Glob patterns to exclude from analysis\n" ++
  "exclude = [\n" ++
  "    \"**/_build/**\",\n" ++
  "]\n" ++
  "\n" ++
  "# Respect .gitignore files\n" ++
  "respect_gitignore = true\n" ++
  "\n" ++
  "# Rule configurations\n" ++
  "# Each rule can be enabled/disabled and have its severity overridden\n" ++
  "\n" ++
  "[rules.no-explicit-use-of-code-block-php]\n" ++
  "enabled = true\n" ++
  "# severity = \"warning\"  # Override default severity\n" ++
  "\n" ++
  "[rules.no-admin-yaml]\n" ++
  "enabled = true\n"

end ConfigTemplate

end MarkupLint
