import Mathlib.Data.List.Forall2
import MarkupLint.Analyzer
import MarkupLint.Proofs.Rule.Verdict
import MarkupLint.Proofs.Text.Lowercase
import MarkupLint.Proofs.Text.Search

namespace MarkupLint

/-!
# Blank lines carry no meaning

The built-in rules neither report a blank line nor let one decide about another
line.  A document therefore has the violations of the document that is left when
its blank lines are taken out; only the line numbers differ.  Two documents that
agree on their lines with text have the same violations at the same lines with
text, whatever blank lines stand between them.
-/

/-- The lines that are not blank, in order. -/
def textLines
    (lines : List Line) :
    List Line :=
  lines.filter fun line => !line.isBlank

/-- A blank line holds white space only. -/
theorem Line.white_of_isBlank
    {line : Line}
    (blank : line.isBlank = true) :
    ∀ character ∈ line.text, isWhiteSpace character = true := by
  apply trim_eq_nil_iff.mp
  simpa [Line.isBlank, Line.content] using blank

/-! ## Verdicts without blank lines -/

theorem isBelowTitle_textLines
    (above : List Line) :
    isBelowTitle (textLines above) = isBelowTitle above := by
  simp [isBelowTitle, textLines, List.find?_filter]

theorem blockAbove?_textLines
    (column : Nat)
    (above : List Line) :
    blockAbove? column (textLines above) = blockAbove? column above := by
  induction above with
  | nil =>
      rfl
  | cons line rest inductionHypothesis =>
      cases blank : line.isBlank with
      | true =>
          have opensNothing := Directive.ofLine?_eq_none_of_isBlank blank
          simpa [blockAbove?, textLines, blank, opensNothing] using inductionHypothesis
      | false =>
          simp only [blockAbove?, textLines] at inductionHypothesis
          simp only [blockAbove?, textLines, blank, List.filter_cons, Bool.not_false, if_true,
            List.findSome?_cons, inductionHypothesis]

/--
A rule for which blank lines carry no meaning: it is silent at a blank line, and
at any line its message depends only on that line and the lines with text above.
-/
structure Rule.IgnoresBlankLines
    (rule : Rule) : Prop where
  silent :
    ∀ {document : Document} {index : Nat} {line : Line},
      document.get? index = some line →
      line.isBlank = true →
      rule.check document index = none
  context :
    ∀ {document other : Document} {index otherIndex : Nat},
      document.get? index = other.get? otherIndex →
      textLines (document.linesAbove index) =
        textLines (other.linesAbove otherIndex) →
      rule.check document index = rule.check other otherIndex

/-- Blank lines carry no meaning for the rule against explicit PHP blocks. -/
theorem ExplicitPhpBlock.rule_ignoresBlankLines
    (severity : Severity) :
    (rule severity).IgnoresBlankLines where
  silent isLine blank := by
    have opensNothing := Directive.ofLine?_eq_none_of_isBlank blank
    simp [rule, check_eq_verdict, isLine, verdict, Line.opensCodeBlock, opensNothing]
  context {document other index otherIndex} sameLine sameText := by
    have verdict_textLines (above : List Line) (line : Line) :
        verdict (textLines above) line = verdict above line := by
      simp only [verdict, isBelowTitle_textLines, blockAbove?_textLines]
    simp only [rule, check_eq_verdict, sameLine]
    congr 1
    funext line
    rw [← verdict_textLines, sameText, verdict_textLines]

/--
Blank lines carry no meaning for the rule against legacy names.  Every legacy name has a
letter, and lower case makes no letter out of white space.
-/
theorem LegacyAdminFile.rule_ignoresBlankLines :
    rule.IgnoresBlankLines where
  silent {document index line} isLine blank := by
    have white := Line.white_of_isBlank blank
    have hasLetter : ∀ name ∈ legacyNames, 'a' ∈ name.legacy.toList := by
      decide
    have notMisused :
        legacyNames.find? (·.isMisusedIn (lowercase line.text)) = none := by
      rw [List.find?_eq_none]
      intro name member misused
      rw [LegacyName.isMisusedIn, Bool.and_eq_true, lowercase_of_white white] at misused
      have letterWhite := white 'a' (mem_of_occursIn misused.1 (hasLetter name member))
      revert letterWhite
      decide
    simp [rule, check_eq_verdict, isLine, verdict, notMisused]
  context sameLine sameText := by
    simp only [rule, check_eq_verdict, sameLine]

/-- Blank lines carry no meaning for any built-in rule. -/
theorem Rule.IsBuiltIn.ignoresBlankLines
    {rule : Rule}
    (builtIn : rule.IsBuiltIn) :
    rule.IgnoresBlankLines := by
  rcases builtIn with ⟨severity, rfl⟩ | rfl
  · exact ExplicitPhpBlock.rule_ignoresBlankLines severity
  · exact LegacyAdminFile.rule_ignoresBlankLines

/-! ## Taking the blank lines out -/

namespace Document

/-- The document without its blank lines. -/
def withoutBlankLines
    (document : Document) :
    Document :=
  ⟨textLines document.lines⟩

/-- Whether the index holds a line with text. -/
def hasTextAt
    (document : Document)
    (index : Nat) :
    Bool :=
  (document.get? index).any fun line => !line.isBlank

/-- The number of lines with text above an index. -/
def textRank
    (document : Document)
    (index : Nat) :
    Nat :=
  (textLines (document.lines.take index)).length

/-- The indices of the lines with text, in order. -/
def textIndices
    (document : Document) :
    List Nat :=
  (List.range document.size).filter document.hasTextAt

/-- The numbers of the lines with text, in order; lines are counted from one. -/
def textNumbers
    (document : Document) :
    List Nat :=
  document.textIndices.map (· + 1)

theorem hasTextAt_eq_true_iff
    {document : Document}
    {index : Nat} :
    document.hasTextAt index = true ↔
      ∃ line, document.get? index = some line ∧ line.isBlank = false := by
  simp [hasTextAt, Option.any_eq_true]

theorem mem_textIndices_iff
    {document : Document}
    {index : Nat} :
    index ∈ document.textIndices ↔ document.hasTextAt index = true := by
  rw [textIndices, List.mem_filter, List.mem_range]
  constructor
  · intro member
    exact member.2
  · intro hasText
    obtain ⟨line, isLine, -⟩ := hasTextAt_eq_true_iff.mp hasText
    exact ⟨(List.getElem?_eq_some_iff.mp isLine).1, hasText⟩

theorem textRank_succ
    (document : Document)
    (index : Nat) :
    document.textRank (index + 1) =
      document.textRank index + if document.hasTextAt index then 1 else 0 := by
  have taken :
      document.textRank (index + 1) =
        document.textRank index +
          (textLines (document.get? index).toList).length := by
    simp [textRank, textLines, List.take_add_one, get?]
  rw [taken]
  cases isLine : document.get? index with
  | none =>
      simp [hasTextAt, isLine, textLines]
  | some line =>
      cases blank : line.isBlank <;>
        simp [hasTextAt, isLine, blank, textLines]

/-- Counting numbers the lines with text consecutively. -/
theorem map_textRank_filter_range
    (document : Document)
    (count : Nat) :
    ((List.range count).filter document.hasTextAt).map document.textRank =
      List.range (document.textRank count) := by
  induction count with
  | zero =>
      simp [textRank, textLines]
  | succ count inductionHypothesis =>
      rw [List.range_succ, List.filter_append, List.map_append, inductionHypothesis,
        textRank_succ]
      cases hasText : document.hasTextAt count with
      | true =>
          simp [hasText, List.range_succ]
      | false =>
          simp [hasText]

theorem textRank_size
    (document : Document) :
    document.textRank document.size = document.withoutBlankLines.size := by
  simp [textRank, size, withoutBlankLines]

/-- The lines with text are numbered from zero when the blank lines are taken out. -/
theorem map_textRank_textIndices
    (document : Document) :
    document.textIndices.map document.textRank =
      List.range document.withoutBlankLines.size := by
  rw [textIndices, map_textRank_filter_range, textRank_size]

/-- The lines split into those above an index and the rest, with and without blank lines. -/
theorem textLines_split
    (document : Document)
    (index : Nat) :
    textLines document.lines =
      textLines (document.lines.take index) ++ textLines (document.lines.drop index) := by
  rw [textLines, textLines, textLines, ← List.filter_append, List.take_append_drop]

/-- A line with text keeps its characters when the blank lines are taken out. -/
theorem get?_withoutBlankLines
    {document : Document}
    {index : Nat}
    (hasText : document.hasTextAt index = true) :
    document.withoutBlankLines.get? (document.textRank index) =
      document.get? index := by
  obtain ⟨line, isLine, notBlank⟩ := hasTextAt_eq_true_iff.mp hasText
  obtain ⟨inside, atIndex⟩ := List.getElem?_eq_some_iff.mp isLine
  have rest :
      textLines (document.lines.drop index) =
        line :: textLines (document.lines.drop (index + 1)) := by
    rw [List.drop_eq_getElem_cons inside, atIndex]
    simp [textLines, notBlank]
  rw [isLine, get?, withoutBlankLines, textRank, document.textLines_split index, rest]
  simp

/-- The lines above a line lose exactly their blank lines. -/
theorem linesAbove_withoutBlankLines
    (document : Document)
    (index : Nat) :
    document.withoutBlankLines.linesAbove (document.textRank index) =
      textLines (document.linesAbove index) := by
  rw [linesAbove, withoutBlankLines, textRank, document.textLines_split index]
  simp [linesAbove, textLines, List.filter_reverse]

/-- A line with text stands among the lines with text at the place that its rank gives. -/
theorem textNumbers_getElem?_eq_some_iff
    {document : Document}
    {index place : Nat} :
    document.textNumbers[place]? = some (index + 1) ↔
      document.hasTextAt index = true ∧ document.textRank index = place := by
  have placeOf
      {other : Nat}
      (found : document.textIndices[other]? = some index) :
      document.textRank index = other := by
    have ranked : (document.textIndices.map document.textRank)[other]? =
        some (document.textRank index) := by
      simp [found]
    rw [map_textRank_textIndices, List.getElem?_eq_some_iff] at ranked
    obtain ⟨inside, same⟩ := ranked
    simpa using same.symm
  have numbered :
      document.textNumbers[place]? = some (index + 1) ↔
        document.textIndices[place]? = some index := by
    simp [textNumbers]
  rw [numbered]
  constructor
  · intro found
    exact ⟨mem_textIndices_iff.mp (List.mem_of_getElem? found), placeOf found⟩
  · rintro ⟨hasText, rfl⟩
    obtain ⟨other, found⟩ :=
      List.mem_iff_getElem?.mp (mem_textIndices_iff.mpr hasText)
    rw [placeOf found]
    exact found

end Document

/-! ## Violations without blank lines -/

namespace Analyzer

/-- Indices at which nothing is found can be left out. -/
theorem flatMap_filter_of_nil
    {indices : List Nat}
    {keep : Nat → Bool}
    {find : Nat → List Violation}
    (nothing : ∀ index ∈ indices, keep index = false → find index = []) :
    (indices.filter keep).flatMap find = indices.flatMap find := by
  induction indices with
  | nil =>
      rfl
  | cons index rest inductionHypothesis =>
      have restSame :=
        inductionHypothesis fun later member => nothing later (by simp [member])
      cases kept : keep index with
      | true =>
          simp [kept, restSame]
      | false =>
          simp [kept, nothing index (by simp) kept, restSame]

theorem filterMap_violation?_of_isBlank
    {analyzer : Analyzer}
    (ignoreBlank : ∀ rule ∈ analyzer.rules, rule.IgnoresBlankLines)
    (file : Path)
    {document : Document}
    {index : Nat}
    {line : Line}
    (isLine : document.get? index = some line)
    (blank : line.isBlank = true) :
    analyzer.activeRules.filterMap (analyzer.violation? file document index) = [] := by
  rw [List.filterMap_eq_nil_iff]
  intro rule active
  have registered : rule ∈ analyzer.rules :=
    (List.mem_filter.mp active).1
  rw [violation?, (ignoreBlank rule registered).silent isLine blank]
  rfl

/-- All violations are found at lines with text. -/
theorem checkDocument_eq_flatMap_textIndices
    {analyzer : Analyzer}
    (ignoreBlank : ∀ rule ∈ analyzer.rules, rule.IgnoresBlankLines)
    (file : Path)
    (document : Document) :
    analyzer.checkDocument file document =
      document.textIndices.flatMap fun index =>
        analyzer.activeRules.filterMap (analyzer.violation? file document index) := by
  rw [checkDocument, Document.textIndices]
  symm
  apply flatMap_filter_of_nil
  intro index member noText
  cases isLine : document.get? index with
  | none =>
      have inside : index < document.lines.length :=
        List.mem_range.mp member
      exact absurd isLine (by simp [Document.get?, inside])
  | some line =>
      have blank : line.isBlank = true := by
        simpa [Document.hasTextAt, isLine] using noText
      exact filterMap_violation?_of_isBlank ignoreBlank file isLine blank

end Analyzer

/-- The violation with the line number it has when the blank lines are taken out. -/
def Violation.withoutBlankLines
    (document : Document)
    (violation : Violation) :
    Violation :=
  { violation with
    location :=
      .ofIndex violation.location.file
        (document.textRank (violation.location.line - 1)) }

namespace Analyzer

/-- Taking the blank lines out moves a violation together with its line. -/
theorem violation?_withoutBlankLines
    (analyzer : Analyzer)
    (file : Path)
    {document : Document}
    {index : Nat}
    (hasText : document.hasTextAt index = true)
    {rule : Rule}
    (ignoresBlank : rule.IgnoresBlankLines) :
    (analyzer.violation? file document index rule).map
        (Violation.withoutBlankLines document) =
      analyzer.violation? file document.withoutBlankLines
        (document.textRank index) rule := by
  have sameText :
      textLines (document.linesAbove index) =
        textLines
          (document.withoutBlankLines.linesAbove (document.textRank index)) := by
    rw [Document.linesAbove_withoutBlankLines]
    simp [textLines]
  have sameMessage :=
    ignoresBlank.context (Document.get?_withoutBlankLines hasText).symm sameText
  rw [violation?, violation?, sameMessage, Option.map_map]
  rfl

/-- A document has the violations of its lines with text, at other line numbers. -/
theorem checkDocument_withoutBlankLines
    {analyzer : Analyzer}
    (ignoreBlank : ∀ rule ∈ analyzer.rules, rule.IgnoresBlankLines)
    (file : Path)
    (document : Document) :
    (analyzer.checkDocument file document).map
        (Violation.withoutBlankLines document) =
      analyzer.checkDocument file document.withoutBlankLines := by
  rw [checkDocument_eq_flatMap_textIndices ignoreBlank, List.map_flatMap, checkDocument,
    ← Document.map_textRank_textIndices, List.flatMap_map]
  apply List.flatMap_congr
  intro index member
  have hasText := Document.mem_textIndices_iff.mp member
  rw [List.map_filterMap]
  apply List.filterMap_congr
  intro rule active
  have registered : rule ∈ analyzer.rules :=
    (List.mem_filter.mp active).1
  exact analyzer.violation?_withoutBlankLines file hasText (ignoreBlank rule registered)

/-- The line number of a violation is that of a line with text. -/
theorem hasTextAt_of_mem_checkDocument
    {analyzer : Analyzer}
    (ignoreBlank : ∀ rule ∈ analyzer.rules, rule.IgnoresBlankLines)
    {file : Path}
    {document : Document}
    {violation : Violation}
    (member : violation ∈ analyzer.checkDocument file document) :
    ∃ index,
      document.hasTextAt index = true ∧
        violation.location.line = index + 1 := by
  rw [checkDocument_eq_flatMap_textIndices ignoreBlank] at member
  obtain ⟨index, isIndex, found⟩ := List.mem_flatMap.mp member
  obtain ⟨rule, -, reported⟩ := List.mem_filterMap.mp found
  obtain ⟨message, -, rfl⟩ := Option.map_eq_some_iff.mp reported
  exact ⟨index, Document.mem_textIndices_iff.mp isIndex, rfl⟩

end Analyzer

/--
Two violations that say the same of the same line with text: it stands at the
same place among the lines with text of its document.
-/
structure Violation.Corresponds
    (document other : Document)
    (violation counterpart : Violation) : Prop where
  code :
    violation.code = counterpart.code
  rule :
    violation.rule = counterpart.rule
  severity :
    violation.severity = counterpart.severity
  file :
    violation.location.file = counterpart.location.file
  message :
    violation.message = counterpart.message
  hasText :
    violation.location.line ∈ document.textNumbers
  samePlace :
    ∀ place : Nat,
      document.textNumbers[place]? = some violation.location.line →
      other.textNumbers[place]? = some counterpart.location.line

/-- Violations that coincide once the blank lines are taken out correspond. -/
theorem Violation.corresponds_of_withoutBlankLines_eq
    {document other : Document}
    {violation counterpart : Violation}
    (same :
      violation.withoutBlankLines document =
        counterpart.withoutBlankLines other)
    (hasText :
      ∃ index,
        document.hasTextAt index = true ∧
          violation.location.line = index + 1)
    (otherHasText :
      ∃ index,
        other.hasTextAt index = true ∧
          counterpart.location.line = index + 1) :
    Corresponds document other violation counterpart := by
  obtain ⟨index, indexHasText, lineShape⟩ := hasText
  obtain ⟨otherIndex, otherIndexHasText, otherLineShape⟩ := otherHasText
  have sameRank : document.textRank index = other.textRank otherIndex := by
    have sameLine := congrArg (fun moved => moved.location.line) same
    simpa [withoutBlankLines, Location.ofIndex, lineShape, otherLineShape] using sameLine
  exact {
    code := congrArg (fun moved => moved.code) same
    rule := congrArg (fun moved => moved.rule) same
    severity := congrArg (fun moved => moved.severity) same
    file := congrArg (fun moved => moved.location.file) same
    message := congrArg (fun moved => moved.message) same
    hasText := by
      rw [lineShape]
      exact List.mem_of_getElem?
        (Document.textNumbers_getElem?_eq_some_iff.mpr ⟨indexHasText, rfl⟩)
    samePlace := by
      intro place found
      rw [lineShape] at found
      obtain ⟨-, rankIsPlace⟩ := Document.textNumbers_getElem?_eq_some_iff.mp found
      rw [otherLineShape]
      exact Document.textNumbers_getElem?_eq_some_iff.mpr
        ⟨otherIndexHasText, sameRank.symm.trans rankIsPlace⟩
  }

/--
Blank lines carry no meaning: two documents with the same lines with text have equally
many violations under the built-in rules, and those at the same position say the same of
the same line with text.  Both lists are compared with that of the one document that is
left without blank lines.
-/
theorem Analyzer.checkDocument_ignores_blank_lines
    {analyzer : Analyzer}
    {document other : Document}
    (builtIn : ∀ rule ∈ analyzer.rules, rule.IsBuiltIn)
    (sameText :
      document.lines.filter (fun line => !line.isBlank) =
        other.lines.filter (fun line => !line.isBlank))
    (file : Path) :
    List.Forall₂ (Violation.Corresponds document other)
      (analyzer.checkDocument file document)
      (analyzer.checkDocument file other) := by
  have ignoreBlank : ∀ rule ∈ analyzer.rules, rule.IgnoresBlankLines :=
    fun rule registered => (builtIn rule registered).ignoresBlankLines
  have sameDocument : document.withoutBlankLines = other.withoutBlankLines :=
    congrArg Document.mk sameText
  have sameMoved :
      (analyzer.checkDocument file document).map (Violation.withoutBlankLines document) =
        (analyzer.checkDocument file other).map (Violation.withoutBlankLines other) := by
    rw [checkDocument_withoutBlankLines ignoreBlank,
      checkDocument_withoutBlankLines ignoreBlank, sameDocument]
  rw [List.forall₂_iff_get]
  refine ⟨by simpa using congrArg List.length sameMoved, ?_⟩
  intro position inside otherInside
  apply Violation.corresponds_of_withoutBlankLines_eq
  · have samePosition := congrArg (fun moved => moved[position]?) sameMoved
    simpa [inside, otherInside] using samePosition
  · exact hasTextAt_of_mem_checkDocument ignoreBlank (List.get_mem _ _)
  · exact hasTextAt_of_mem_checkDocument ignoreBlank (List.get_mem _ _)

/-- Both violations of a page stay when blank lines are put around and between its lines. -/
theorem Analyzer.checkDocument_ignores_blank_lines_in_page :
    (checkDocument ⟨.ofString "/docs", Rule.catalogue, [], {}⟩ "index.rst"
        (.ofText "  .. code-block:: php\nadmin.yml".toList)).map
          (fun violation => violation.location.line) = [1, 2] ∧
      List.Forall₂
        (Violation.Corresponds
          (.ofText "  .. code-block:: php\nadmin.yml".toList)
          (.ofText "\n  .. code-block:: php\n \t \n\nadmin.yml\n\n".toList))
        (checkDocument ⟨.ofString "/docs", Rule.catalogue, [], {}⟩ "index.rst"
          (.ofText "  .. code-block:: php\nadmin.yml".toList))
        (checkDocument ⟨.ofString "/docs", Rule.catalogue, [], {}⟩ "index.rst"
          (.ofText "\n  .. code-block:: php\n \t \n\nadmin.yml\n\n".toList)) :=
  ⟨by decide,
    checkDocument_ignores_blank_lines
      (fun _ registered => Rule.isBuiltIn_of_mem_catalogue registered)
      (by decide) "index.rst"⟩

end MarkupLint
