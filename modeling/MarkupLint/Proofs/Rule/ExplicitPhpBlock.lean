import MarkupLint.Proofs.CodeBlock
import MarkupLint.Proofs.LineClass
import MarkupLint.Proofs.Rule.Verdict

namespace MarkupLint

/-!
# Which explicit PHP blocks are reported

`IsReported` states the rule against explicit PHP blocks without any scan: it
speaks of the form of the line, of the nearest line with text above it, and of
the nearest directive above it that starts further left.  The check reports
exactly the lines that it describes.
-/

namespace ExplicitPhpBlock

/-- The nearest line with text above the index, if any, is no title. -/
def IsApartFromTitle
    (document : Document)
    (index : Nat) : Prop :=
  ∀ line above,
    document.NearestAbove index Line.HasText line above →
    ¬ Line.IsAdornment (trim line.text)

/-- The nearest directive above and left of the column, if any, is no configuration block. -/
def IsOutsideConfiguration
    (document : Document)
    (index column : Nat) : Prop :=
  ∀ line above,
    document.NearestAbove index (Document.OpensLeftOf column) line above →
    ∀ argument,
      Directive.ofLine? line ≠ some (.named "configuration-block".toList argument)

/-- The index holds an explicit PHP block in a place that needs none. -/
def IsReported
    (document : Document)
    (index : Nat) : Prop :=
  ∃ line width,
    document.lines[index]? = some line ∧
      line.IsIndentedBy width ∧
      IsCodeBlockText "php".toList (trim line.text) ∧
      (width = 0 ∧ IsApartFromTitle document index ∨
        0 < width ∧ IsOutsideConfiguration document index width)

/-- Only a named directive with the right name opens a configuration block. -/
theorem opens_configurationBlock_iff
    {line : Line} :
    line.opens .configurationBlock = true ↔
      ∃ argument,
        Directive.ofLine? line =
          some (.named "configuration-block".toList argument) := by
  rw [Line.opens, beq_iff_eq, Option.bind_eq_some_iff]
  constructor
  · rintro ⟨directive, parsed, sameKind⟩
    cases directive with
    | named name argument =>
        obtain rfl := DirectiveKind.ofName?_eq_some_iff.mp sameKind
        exact ⟨argument, parsed⟩
    | literalShorthand =>
        cases sameKind
  · rintro ⟨argument, parsed⟩
    exact ⟨_, parsed, DirectiveKind.ofName?_eq_some_iff.mpr rfl⟩

/-- At the left margin a title directly above allows the block. -/
theorem isDirectlyAfterHeadline_eq_false_iff
    {document : Document}
    {index : Nat} :
    document.isDirectlyAfterHeadline index = false ↔
      IsApartFromTitle document index := by
  rw [← Bool.not_eq_true, Document.isDirectlyAfterHeadline_iff]
  constructor
  · intro notAfter line above nearest isAdornment
    exact notAfter ⟨line, above, nearest, Line.isHeadline_iff.mpr isAdornment⟩
  · rintro apart ⟨line, above, nearest, isHeadline⟩
    exact apart line above nearest (Line.isHeadline_iff.mp isHeadline)

/-- Further right an enclosing configuration block allows the block. -/
theorem isEnclosedBy_eq_false_iff
    {document : Document}
    {index column : Nat} :
    document.isEnclosedBy index column .configurationBlock = false ↔
      IsOutsideConfiguration document index column := by
  rw [← Bool.not_eq_true, Document.isEnclosedBy_iff]
  constructor
  · intro notEnclosed line above nearest argument parsed
    exact notEnclosed
      ⟨line, above, nearest, opens_configurationBlock_iff.mpr ⟨argument, parsed⟩⟩
  · rintro outside ⟨line, above, nearest, opensBlock⟩
    obtain ⟨argument, parsed⟩ := opens_configurationBlock_iff.mp opensBlock
    exact outside line above nearest argument parsed

/-- The place of a line decides by one of two scans, depending on its indentation. -/
theorem isAllowedAt_eq_false_iff
    {document : Document}
    {index : Nat}
    {line : Line} :
    isAllowedAt document index line = false ↔
      line.indentation = 0 ∧ IsApartFromTitle document index ∨
        0 < line.indentation ∧
          IsOutsideConfiguration document index line.indentation := by
  rw [← isDirectlyAfterHeadline_eq_false_iff, ← isEnclosedBy_eq_false_iff, isAllowedAt]
  by_cases atMargin : line.indentation = 0
  · simp [atMargin]
  · simp [atMargin, Nat.pos_of_ne_zero atMargin]

theorem isReported_iff
    {document : Document}
    {index : Nat} :
    IsReported document index ↔
      ∃ line,
        document.get? index = some line ∧
          line.opensCodeBlock .php true = true ∧
          isAllowedAt document index line = false := by
  simp only [IsReported, Line.isIndentedBy_iff, isAllowedAt_eq_false_iff,
    Line.opensCodeBlock_strict_iff, Document.get?]
  constructor
  · rintro ⟨line, width, isLine, rfl, isPhp, place⟩
    exact ⟨line, isLine, isPhp, place⟩
  · rintro ⟨line, isLine, isPhp, place⟩
    exact ⟨line, line.indentation, isLine, rfl, isPhp, place⟩

/-- The check answers with its message or not at all. -/
theorem check_eq_message_iff
    {document : Document}
    {index : Nat} :
    check document index = some message ↔ IsReported document index := by
  rw [isReported_iff]
  cases isLine : document.get? index with
  | none =>
      simp [check, isLine]
  | some line =>
      simp [check_of_get?_eq_some isLine]

/--
An explicit PHP block is reported exactly when its place needs none: at the left
margin unless a title stands directly above, and further right unless the nearest
enclosing directive is a configuration block.  Nothing else is reported.
-/
theorem check_iff_isReported
    (document : Document)
    (index : Nat) :
    (check document index = some message ↔ IsReported document index) ∧
      (check document index = none ↔ ¬ IsReported document index) := by
  refine ⟨check_eq_message_iff, ?_⟩
  rw [← check_eq_message_iff]
  cases isLine : document.get? index with
  | none =>
      simp [check, isLine]
  | some line =>
      rw [check_of_get?_eq_some isLine]
      split <;>
        simp

/-- A configuration block, then a note, each with an explicit PHP block inside. -/
def pageWithBlocks : Document :=
  .ofLines
    [".. configuration-block::".toList,
      [],
      "    .. code-block:: php".toList,
      ".. note::".toList,
      [],
      "  \t.. code-block::  php ".toList]

theorem check_iff_isReported_in_page :
    check pageWithBlocks 2 = none ∧
      ¬ IsReported pageWithBlocks 2 ∧
      check pageWithBlocks 5 = some message ∧
      IsReported pageWithBlocks 5 := by
  have inConfiguration : check pageWithBlocks 2 = none := by
    decide +kernel
  have inNote : check pageWithBlocks 5 = some message := by
    decide +kernel
  exact
    ⟨inConfiguration, (check_iff_isReported pageWithBlocks 2).2.mp inConfiguration,
      inNote, (check_iff_isReported pageWithBlocks 5).1.mp inNote⟩

end ExplicitPhpBlock

end MarkupLint
