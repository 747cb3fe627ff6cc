import MarkupLint.CodeBlock
import MarkupLint.Rule

namespace MarkupLint

/-!
# Explicit PHP code blocks

PHP is the default language of the documentation, so a PHP block is written with
the shorthand `::`.  The explicit directive stays allowed where the shorthand
has nothing to attach to, directly after a title, and inside a configuration
block, whose members all name their language.
-/

namespace ExplicitPhpBlock

/-- What is reported at an explicit PHP block. -/
def message : String :=
  "Please do not use \".. code-block:: php\", use \"::\" instead."

/-- Whether the place of a line allows an explicit PHP block. -/
def isAllowedAt (document : Document) (index : Nat) (line : Line) : Bool :=
  if line.indentation = 0 then
    document.isDirectlyAfterHeadline index
  else
    document.isEnclosedBy index line.indentation .configurationBlock

/-- Report a line that opens an explicit PHP block in a place that needs none. -/
def check (document : Document) (index : Nat) : Option String :=
  match document.get? index with
  | none => none
  | some line =>
      if (Directive.ofLine? line).any Directive.isShorthand then
        none
      else if !line.opensCodeBlock .php true then
        none
      else if isAllowedAt document index line then
        none
      else
        some message

/-- The rule against explicit PHP blocks, at a chosen severity. -/
def rule (severity : Severity) : Rule where
  name := "no-explicit-use-of-code-block-php"
  code := "RST001"
  description := "Prefers \"::\" over an explicit \".. code-block:: php\""
  groups := [.symfony]
  severity := severity
  check := check

end ExplicitPhpBlock

end MarkupLint
