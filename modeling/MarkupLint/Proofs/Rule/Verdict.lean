import MarkupLint.Proofs.Context
import MarkupLint.Rule.Catalogue

namespace MarkupLint

/-!
# Verdicts on a line and the lines above it

A built-in rule judges a line by its own characters and by the characters of the
lines above it.  It sees neither the index of the line nor anything below.  This
module states the checks of the rules in that form, so that the verdicts in two
documents can be compared wherever the lines above are alike.
-/

/-! ## Lines with the same content -/

namespace Line

variable
  {line other : Line}
  (same : other.content = line.content)

include same

theorem isBlank_of_content_eq :
    other.isBlank = line.isBlank := by
  rw [isBlank, isBlank, same]

theorem isHeadline_of_content_eq :
    other.isHeadline = line.isHeadline := by
  rw [isHeadline, isHeadline, same]

theorem ofLine?_of_content_eq :
    Directive.ofLine? other = Directive.ofLine? line := by
  rw [Directive.ofLine?, Directive.ofLine?, same]

theorem opensCodeBlock_of_content_eq
    (language : Language)
    (strict : Bool) :
    other.opensCodeBlock language strict = line.opensCodeBlock language strict := by
  rw [opensCodeBlock, opensCodeBlock, ofLine?_of_content_eq same]

end Line

/-! ## Verdicts -/

/-- Whether the nearest line with text among the lines above is a title. -/
def isBelowTitle
    (above : List Line) :
    Bool :=
  match above.find? fun line => !line.isBlank with
  | none => false
  | some line => line.isHeadline

/-- The nearest directive among the lines above that starts left of the column. -/
def blockAbove?
    (column : Nat)
    (above : List Line) :
    Option Directive :=
  above.findSome? fun line =>
    if line.indentation < column then
      Directive.ofLine? line
    else
      none

namespace Document

/-- The lines above an index, nearest first. -/
def linesAbove
    (document : Document)
    (index : Nat) :
    List Line :=
  (document.lines.take index).reverse

theorem map_fst_linesBefore
    (document : Document)
    (index : Nat) :
    (document.linesBefore index).map Prod.fst = document.linesAbove index := by
  simp [linesBefore, linesAbove]

/-- Standing below a title depends on the lines above only. -/
theorem isDirectlyAfterHeadline_eq_isBelowTitle
    (document : Document)
    (index : Nat) :
    document.isDirectlyAfterHeadline index =
      isBelowTitle (document.linesAbove index) := by
  rw [isDirectlyAfterHeadline, previousNonBlank?, isBelowTitle, ← map_fst_linesBefore,
    List.find?_map]
  change _ =
    match Option.map Prod.fst
      ((document.linesBefore index).find? fun entry => !entry.1.isBlank) with
    | none => false
    | some line => line.isHeadline
  cases (document.linesBefore index).find? fun entry => !entry.1.isBlank <;>
    rfl

/-- The enclosing directive depends on the lines above only. -/
theorem enclosingDirective?_map_directive
    (document : Document)
    (index column : Nat) :
    (document.enclosingDirective? index column).map EnclosingDirective.directive =
      blockAbove? column (document.linesAbove index) := by
  rw [enclosingDirective?, blockAbove?, ← map_fst_linesBefore, List.findSome?_map,
    List.map_findSome?]
  congr 1
  funext entry
  rw [Function.comp, Function.comp, opening?_eq]
  by_cases left : entry.1.indentation < column
  · simp [left, Function.comp_def]
  · simp [left]

/-- Whether a block of a kind encloses a line depends on the lines above only. -/
theorem isEnclosedBy_eq_blockAbove?
    (document : Document)
    (index column : Nat)
    (kind : DirectiveKind) :
    document.isEnclosedBy index column kind =
      ((blockAbove? column (document.linesAbove index)).bind Directive.kind? ==
        some kind) := by
  rw [← enclosingDirective?_map_directive, isEnclosedBy, Option.bind_map]
  rfl

end Document

namespace ExplicitPhpBlock

/-- The shorthand opens no block that has to name its language. -/
theorem opensCodeBlock_strict_of_isShorthand
    {line : Line}
    (language : Language)
    (shorthand : (Directive.ofLine? line).any Directive.isShorthand = true) :
    line.opensCodeBlock language true = false := by
  rw [Line.opensCodeBlock]
  cases parsed : Directive.ofLine? line with
  | none =>
      rfl
  | some directive =>
      cases directive with
      | named name argument =>
          simp [parsed, Directive.isShorthand] at shorthand
      | literalShorthand =>
          rfl

/-- The exit at the shorthand is no restriction on the blocks that are reported. -/
theorem check_of_get?_eq_some
    {document : Document}
    {index : Nat}
    {line : Line}
    (isLine : document.get? index = some line) :
    check document index =
      if line.opensCodeBlock .php true && !isAllowedAt document index line then
        some message
      else
        none := by
  simp only [check, isLine]
  by_cases shorthand : (Directive.ofLine? line).any Directive.isShorthand = true
  · rw [if_pos shorthand, opensCodeBlock_strict_of_isShorthand .php shorthand]
    rfl
  · rw [if_neg shorthand]
    cases line.opensCodeBlock .php true <;>
      cases isAllowedAt document index line <;>
      rfl

/-- What the rule against explicit PHP blocks says of a line below the given lines. -/
def verdict
    (above : List Line)
    (line : Line) :
    Option String :=
  let isAllowed :=
    if line.indentation = 0 then
      isBelowTitle above
    else
      (blockAbove? line.indentation above).bind Directive.kind? ==
        some .configurationBlock
  if line.opensCodeBlock .php true && !isAllowed then
    some message
  else
    none

/-- The check of a line is the verdict on it. -/
theorem check_eq_verdict
    (document : Document)
    (index : Nat) :
    check document index =
      (document.get? index).bind (verdict (document.linesAbove index)) := by
  cases isLine : document.get? index with
  | none =>
      rw [check, isLine]
      rfl
  | some line =>
      simp only [check_of_get?_eq_some isLine, Option.bind_some, verdict, isAllowedAt,
        Document.isDirectlyAfterHeadline_eq_isBelowTitle,
        Document.isEnclosedBy_eq_blockAbove?]

end ExplicitPhpBlock

namespace LegacyAdminFile

/-- What the rule against legacy names says of a line. -/
def verdict
    (line : Line) :
    Option String :=
  (legacyNames.find? (·.isMisusedIn (lowercase line.text))).map (message ·.legacy)

/-- The check of a line is the verdict on it. -/
theorem check_eq_verdict
    (document : Document)
    (index : Nat) :
    check document index = (document.get? index).bind verdict := by
  unfold check
  cases document.get? index <;>
    rfl

end LegacyAdminFile

/-- The rule is one of the built-in ones, at any severity it can be given. -/
def Rule.IsBuiltIn
    (rule : Rule) : Prop :=
  (∃ severity, rule = ExplicitPhpBlock.rule severity) ∨
    rule = LegacyAdminFile.rule

/-- The rules of the catalogue are built in. -/
theorem Rule.isBuiltIn_of_mem_catalogue
    {rule : Rule}
    (member : rule ∈ catalogue) :
    rule.IsBuiltIn := by
  simp only [catalogue, List.mem_cons, List.not_mem_nil, or_false] at member
  rcases member with isPhp | isLegacy
  · exact .inl ⟨.error, isPhp⟩
  · exact .inr isLegacy

end MarkupLint
