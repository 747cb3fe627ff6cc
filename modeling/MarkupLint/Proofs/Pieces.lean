import Mathlib.Data.List.Basic
import MarkupLint.Analyzer
import MarkupLint.Proofs.Rule.Verdict

namespace MarkupLint

/-!
# Checking a document in pieces

A built-in rule looks at a line and at the lines above it, and it never looks
past a directive that starts at the left margin.  Text below a line therefore
says nothing about the line, and neither does text above such a directive about
the lines below it.  A document can be cut there and its pieces be checked one by
one; only the line numbers of the lower piece have to be moved.
-/

/-- Whether the line opens a directive at the left margin. -/
def Line.opensAtMargin
    (line : Line) :
    Bool :=
  line.isDirective && line.indentation == 0

/-- The lines above, nearest first, up to and including the first directive at the margin. -/
def linesInView : List Line → List Line
  | [] => []
  | line :: farther =>
      if line.opensAtMargin then
        [line]
      else
        line :: linesInView farther

/-- What stands behind a directive at the margin is out of view. -/
theorem linesInView_append_of_mem
    {nearer : List Line}
    {header : Line}
    (member : header ∈ nearer)
    (atMargin : header.opensAtMargin = true)
    (farther : List Line) :
    linesInView (nearer ++ farther) = linesInView nearer := by
  induction nearer with
  | nil =>
      cases member
  | cons line rest inductionHypothesis =>
      cases lineAtMargin : line.opensAtMargin with
      | true =>
          simp [linesInView, lineAtMargin]
      | false =>
          have inRest : header ∈ rest := by
            rcases List.mem_cons.mp member with rfl | inRest
            · rw [atMargin] at lineAtMargin
              cases lineAtMargin
            · exact inRest
          simp [linesInView, lineAtMargin, inductionHypothesis inRest]

/-! ## The scans stop at the margin -/

theorem Line.opensAtMargin_iff
    {line : Line} :
    line.opensAtMargin = true ↔
      (Directive.ofLine? line).isSome = true ∧ line.indentation = 0 := by
  simp [opensAtMargin, isDirective]

theorem Line.isBlank_eq_false_of_opensAtMargin
    {line : Line}
    (atMargin : line.opensAtMargin = true) :
    line.isBlank = false := by
  have opens := (opensAtMargin_iff.mp atMargin).1
  cases blank : line.isBlank with
  | false =>
      rfl
  | true =>
      rw [Directive.ofLine?_eq_none_of_isBlank blank] at opens
      cases opens

/-- A directive at the margin has text, so the scan for a title ends there. -/
theorem isBelowTitle_linesInView
    (above : List Line) :
    isBelowTitle (linesInView above) = isBelowTitle above := by
  induction above with
  | nil =>
      rfl
  | cons line farther inductionHypothesis =>
      cases atMargin : line.opensAtMargin with
      | true =>
          have hasText := Line.isBlank_eq_false_of_opensAtMargin atMargin
          simp [isBelowTitle, linesInView, atMargin, hasText]
      | false =>
          cases blank : line.isBlank with
          | true =>
              simpa [isBelowTitle, linesInView, atMargin, blank] using inductionHypothesis
          | false =>
              simp [isBelowTitle, linesInView, atMargin, blank]

/-- A directive at the margin is left of every other column, so the scan for a block ends there. -/
theorem blockAbove?_linesInView
    {column : Nat}
    (indented : 0 < column)
    (above : List Line) :
    blockAbove? column (linesInView above) = blockAbove? column above := by
  induction above with
  | nil =>
      rfl
  | cons line farther inductionHypothesis =>
      cases atMargin : line.opensAtMargin with
      | true =>
          obtain ⟨opens, unindented⟩ := Line.opensAtMargin_iff.mp atMargin
          obtain ⟨directive, parsed⟩ := Option.isSome_iff_exists.mp opens
          simp [blockAbove?, linesInView, atMargin, unindented, indented, parsed]
      | false =>
          simp only [blockAbove?] at inductionHypothesis
          simp [blockAbove?, linesInView, atMargin, List.findSome?_cons, inductionHypothesis]

/-- A rule whose message depends only on the line and on the lines in view above it. -/
def Rule.ReadsLinesInView
    (rule : Rule) : Prop :=
  ∀ {document other : Document} {index otherIndex : Nat},
    document.get? index = other.get? otherIndex →
    linesInView (document.linesAbove index) =
      linesInView (other.linesAbove otherIndex) →
    rule.check document index = rule.check other otherIndex

theorem ExplicitPhpBlock.verdict_linesInView
    (above : List Line)
    (line : Line) :
    verdict (linesInView above) line = verdict above line := by
  by_cases unindented : line.indentation = 0
  · simp only [verdict, if_pos unindented, isBelowTitle_linesInView]
  · have indented : 0 < line.indentation :=
      Nat.pos_of_ne_zero unindented
    simp only [verdict, if_neg unindented, blockAbove?_linesInView indented]

theorem ExplicitPhpBlock.rule_readsLinesInView
    (severity : Severity) :
    (rule severity).ReadsLinesInView := by
  intro document other index otherIndex sameLine sameView
  simp only [rule, check_eq_verdict, sameLine]
  congr 1
  funext line
  rw [← verdict_linesInView, sameView, verdict_linesInView]

theorem LegacyAdminFile.rule_readsLinesInView :
    rule.ReadsLinesInView := by
  intro document other index otherIndex sameLine sameView
  simp only [rule, check_eq_verdict, sameLine]

/-- No built-in rule looks down, or past a directive at the margin. -/
theorem Rule.IsBuiltIn.readsLinesInView
    {rule : Rule}
    (builtIn : rule.IsBuiltIn) :
    rule.ReadsLinesInView := by
  rcases builtIn with ⟨severity, rfl⟩ | rfl
  · exact ExplicitPhpBlock.rule_readsLinesInView severity
  · exact LegacyAdminFile.rule_readsLinesInView

/-! ## The lines of a piece -/

namespace Document

theorem get?_append_left
    {above : List Line}
    (below : List Line)
    {index : Nat}
    (inside : index < above.length) :
    get? ⟨above ++ below⟩ index = get? ⟨above⟩ index :=
  List.getElem?_append_left inside

theorem linesAbove_append_left
    {above : List Line}
    (below : List Line)
    {index : Nat}
    (inside : index ≤ above.length) :
    linesAbove ⟨above ++ below⟩ index = linesAbove ⟨above⟩ index := by
  simp only [linesAbove, List.take_append_of_le_length inside]

theorem get?_append_right
    (above below : List Line)
    (index : Nat) :
    get? ⟨above ++ below⟩ (above.length + index) = get? ⟨below⟩ index := by
  rw [get?, get?, List.getElem?_append_right (Nat.le_add_right _ _), Nat.add_sub_cancel_left]

theorem linesAbove_append_right
    (above below : List Line)
    (index : Nat) :
    linesAbove ⟨above ++ below⟩ (above.length + index) =
      linesAbove ⟨below⟩ index ++ above.reverse := by
  have wholeAbove : above.take (above.length + index) = above :=
    List.take_of_length_le (Nat.le_add_right _ _)
  simp [linesAbove, List.take_append, wholeAbove]

/-- Below a directive at the margin, the view is that of the piece which starts with it. -/
theorem linesInView_below_margin
    {header : Line}
    (atMargin : header.opensAtMargin = true)
    (above below : List Line)
    (index : Nat) :
    linesInView (linesAbove ⟨above ++ header :: below⟩ (above.length + (index + 1))) =
      linesInView (linesAbove ⟨header :: below⟩ (index + 1)) := by
  have inPiece : header ∈ linesAbove ⟨header :: below⟩ (index + 1) := by
    simp [linesAbove]
  rw [linesAbove_append_right, linesInView_append_of_mem inPiece atMargin]

end Document

/-! ## The violations of a piece -/

/-- The violation with its line number moved down by a number of lines. -/
def Violation.movedDown
    (offset : Nat)
    (violation : Violation) :
    Violation :=
  { violation with
    location :=
      ⟨violation.location.file, offset + violation.location.line⟩ }

namespace Analyzer

/-- The violations at one line, rule by rule. -/
def violationsAt
    (analyzer : Analyzer)
    (file : Path)
    (document : Document)
    (index : Nat) :
    List Violation :=
  analyzer.activeRules.filterMap (analyzer.violation? file document index)

/-- The violations of a document at those of its lines that follow `above`. -/
def violationsBelow
    (analyzer : Analyzer)
    (file : Path)
    (above below : List Line) :
    List Violation :=
  (List.range below.length).flatMap fun index =>
    analyzer.violationsAt file ⟨above ++ below⟩ (above.length + index)

theorem line_of_mem_violationsAt
    {analyzer : Analyzer}
    {file : Path}
    {document : Document}
    {index : Nat}
    {violation : Violation}
    (member : violation ∈ analyzer.violationsAt file document index) :
    violation.location.line = index + 1 := by
  obtain ⟨rule, -, reported⟩ := List.mem_filterMap.mp member
  obtain ⟨message, -, rfl⟩ := Option.map_eq_some_iff.mp reported
  rfl

theorem line_le_of_mem_checkDocument
    {analyzer : Analyzer}
    {file : Path}
    {document : Document}
    {violation : Violation}
    (member : violation ∈ analyzer.checkDocument file document) :
    violation.location.line ≤ document.size := by
  obtain ⟨index, isIndex, found⟩ := List.mem_flatMap.mp member
  rw [line_of_mem_violationsAt found]
  exact List.mem_range.mp isIndex

theorem lt_line_of_mem_violationsBelow
    {analyzer : Analyzer}
    {file : Path}
    {above below : List Line}
    {violation : Violation}
    (member : violation ∈ analyzer.violationsBelow file above below) :
    above.length < violation.location.line := by
  obtain ⟨index, -, found⟩ := List.mem_flatMap.mp member
  rw [line_of_mem_violationsAt found]
  omega

section

variable
  {analyzer : Analyzer}
  (readInView : ∀ rule ∈ analyzer.rules, rule.ReadsLinesInView)
  (file : Path)

include readInView

/-- Whatever is run says the same of lines with the same characters and the same view. -/
theorem check_eq_of_linesInView_eq
    {rule : Rule}
    (active : rule ∈ analyzer.activeRules)
    {document other : Document}
    {index otherIndex : Nat}
    (sameLine : document.get? index = other.get? otherIndex)
    (sameView :
      linesInView (document.linesAbove index) =
        linesInView (other.linesAbove otherIndex)) :
    rule.check document index = rule.check other otherIndex := by
  have registered : rule ∈ analyzer.rules :=
    (List.mem_filter.mp active).1
  exact readInView rule registered sameLine sameView

/-- A line moves together with its view and takes its violations along. -/
theorem violationsAt_moved
    {document other : Document}
    {offset index : Nat}
    (sameLine : document.get? (offset + index) = other.get? index)
    (sameView :
      linesInView (document.linesAbove (offset + index)) =
        linesInView (other.linesAbove index)) :
    analyzer.violationsAt file document (offset + index) =
      (analyzer.violationsAt file other index).map (Violation.movedDown offset) := by
  rw [violationsAt, violationsAt, List.map_filterMap]
  apply List.filterMap_congr
  intro rule active
  rw [violation?, violation?,
    check_eq_of_linesInView_eq readInView active sameLine sameView, Option.map_map]
  rfl

/-- Text below a line leaves its violations alone. -/
theorem violationsAt_append_left
    {above : List Line}
    (below : List Line)
    {index : Nat}
    (inside : index < above.length) :
    analyzer.violationsAt file ⟨above ++ below⟩ index =
      analyzer.violationsAt file ⟨above⟩ index := by
  have sameView :=
    congrArg linesInView
      (Document.linesAbove_append_left below (Nat.le_of_lt inside))
  apply List.filterMap_congr
  intro rule active
  rw [violation?, violation?,
    check_eq_of_linesInView_eq readInView active
      (Document.get?_append_left below inside) sameView]

/-- A document has the violations of its upper part, and then those of the lines below it. -/
theorem checkDocument_append
    (above below : List Line) :
    analyzer.checkDocument file ⟨above ++ below⟩ =
      analyzer.checkDocument file ⟨above⟩ ++
        analyzer.violationsBelow file above below := by
  have upper :
      (List.range above.length).flatMap (analyzer.violationsAt file ⟨above ++ below⟩) =
        analyzer.checkDocument file ⟨above⟩ := by
    apply List.flatMap_congr
    intro index member
    exact violationsAt_append_left readInView file below (List.mem_range.mp member)
  calc
    analyzer.checkDocument file ⟨above ++ below⟩ =
        (List.range (above.length + below.length)).flatMap
          (analyzer.violationsAt file ⟨above ++ below⟩) := by
      rw [← List.length_append]
      rfl
    _ = (List.range above.length).flatMap (analyzer.violationsAt file ⟨above ++ below⟩) ++
          analyzer.violationsBelow file above below := by
      rw [List.range_add, List.flatMap_append, List.flatMap_map]
      rfl
    _ = analyzer.checkDocument file ⟨above⟩ ++
          analyzer.violationsBelow file above below := by
      rw [upper]

/-- The violations with small line numbers are those of the upper part on its own. -/
theorem filter_le_checkDocument_append
    (above below : List Line) :
    (analyzer.checkDocument file ⟨above ++ below⟩).filter
        (fun violation => violation.location.line ≤ above.length) =
      analyzer.checkDocument file ⟨above⟩ := by
  have keepsUpper :
      ∀ violation ∈ analyzer.checkDocument file ⟨above⟩,
        decide (violation.location.line ≤ above.length) = true := by
    intro violation member
    exact decide_eq_true (line_le_of_mem_checkDocument member)
  have dropsLower :
      ∀ violation ∈ analyzer.violationsBelow file above below,
        ¬ decide (violation.location.line ≤ above.length) = true := by
    intro violation member
    have isBelow := lt_line_of_mem_violationsBelow member
    simpa using isBelow
  rw [checkDocument_append readInView, List.filter_append,
    List.filter_eq_self.mpr keepsUpper, List.filter_eq_nil_iff.mpr dropsLower, List.append_nil]

/-- The violations with large line numbers are those of the lines below. -/
theorem filter_lt_checkDocument_append
    (above below : List Line) :
    (analyzer.checkDocument file ⟨above ++ below⟩).filter
        (fun violation => above.length < violation.location.line) =
      analyzer.violationsBelow file above below := by
  have dropsUpper :
      ∀ violation ∈ analyzer.checkDocument file ⟨above⟩,
        ¬ decide (above.length < violation.location.line) = true := by
    intro violation member
    have isAbove : violation.location.line ≤ above.length :=
      line_le_of_mem_checkDocument member
    simpa using isAbove
  have keepsLower :
      ∀ violation ∈ analyzer.violationsBelow file above below,
        decide (above.length < violation.location.line) = true := by
    intro violation member
    exact decide_eq_true (lt_line_of_mem_violationsBelow member)
  rw [checkDocument_append readInView, List.filter_append,
    List.filter_eq_nil_iff.mpr dropsUpper, List.filter_eq_self.mpr keepsLower, List.nil_append]

/-- Text above a directive at the margin only moves the violations below it. -/
theorem violationsBelow_margin
    {header : Line}
    (atMargin : header.opensAtMargin = true)
    (above below : List Line) :
    analyzer.violationsBelow file (above ++ [header]) below =
      (analyzer.violationsBelow file [header] below).map
        (Violation.movedDown above.length) := by
  rw [violationsBelow, violationsBelow, List.map_flatMap]
  apply List.flatMap_congr
  intro index _
  have whole : above ++ [header] ++ below = above ++ header :: below := by
    simp
  have place :
      (above ++ [header]).length + index = above.length + (index + 1) := by
    rw [List.length_append, List.length_singleton]
    omega
  have placeInPiece : [header].length + index = index + 1 := by
    rw [List.length_singleton]
    omega
  rw [whole, place, placeInPiece]
  exact violationsAt_moved readInView file
    (Document.get?_append_right above (header :: below) (index + 1))
    (Document.linesInView_below_margin atMargin above below index)

end

/--
A document can be checked in pieces that are cut at a directive at the left
margin: its violations are those of the upper piece, which ends with the
directive, and then those of the lower piece, which starts with it, at moved line
numbers.  Text below a line never changes what is reported above, and text above
the directive never changes what is reported below.
-/
theorem checkDocument_cut_at_margin_directive
    {analyzer : Analyzer}
    {header : Line}
    (builtIn : ∀ rule ∈ analyzer.rules, rule.IsBuiltIn)
    (unindented : header.indentation = 0)
    (opens : (Directive.ofLine? header).isSome = true)
    (file : Path)
    (above below : List Line) :
    analyzer.checkDocument file ⟨above ++ [header] ++ below⟩ =
        analyzer.checkDocument file ⟨above ++ [header]⟩ ++
          ((analyzer.checkDocument file ⟨[header] ++ below⟩).filter
            fun violation => 1 < violation.location.line).map
              (Violation.movedDown above.length) ∧
      (analyzer.checkDocument file ⟨above ++ below⟩).filter
          (fun violation => violation.location.line ≤ above.length) =
        analyzer.checkDocument file ⟨above⟩ ∧
      (analyzer.checkDocument file ⟨above ++ [header] ++ below⟩).filter
          (fun violation => above.length + 1 < violation.location.line) =
        ((analyzer.checkDocument file ⟨[header] ++ below⟩).filter
          fun violation => 1 < violation.location.line).map
            (Violation.movedDown above.length) := by
  have readInView : ∀ rule ∈ analyzer.rules, rule.ReadsLinesInView :=
    fun rule registered => (builtIn rule registered).readsLinesInView
  have atMargin : header.opensAtMargin = true :=
    Line.opensAtMargin_iff.mpr ⟨opens, unindented⟩
  have lowerPiece :
      analyzer.violationsBelow file (above ++ [header]) below =
        ((analyzer.checkDocument file ⟨[header] ++ below⟩).filter
          fun violation => 1 < violation.location.line).map
            (Violation.movedDown above.length) := by
    rw [violationsBelow_margin readInView file atMargin,
      ← filter_lt_checkDocument_append readInView file [header] below, List.length_singleton]
  refine ⟨?_, filter_le_checkDocument_append readInView file above below, ?_⟩
  · rw [checkDocument_append readInView, lowerPiece]
  · rw [← lowerPiece, ← filter_lt_checkDocument_append readInView file (above ++ [header]) below,
      List.length_append, List.length_singleton]

/--
Below a note at the margin, a configuration block above it no longer excuses an
explicit PHP block.
-/
theorem checkDocument_cut_at_margin_directive_in_page :
    (checkDocument ⟨.ofString "/docs", Rule.catalogue, [], {}⟩ "index.rst"
        ⟨[Line.ofString ".. configuration-block::"] ++ [Line.ofString ".. note::"] ++
          [Line.ofString "    .. code-block:: php", Line.ofString "admin.yml"]⟩).map
            (fun violation => violation.location.line) = [3, 4] ∧
      checkDocument ⟨.ofString "/docs", Rule.catalogue, [], {}⟩ "index.rst"
          ⟨[Line.ofString ".. configuration-block::"] ++ [Line.ofString ".. note::"] ++
            [Line.ofString "    .. code-block:: php", Line.ofString "admin.yml"]⟩ =
        checkDocument ⟨.ofString "/docs", Rule.catalogue, [], {}⟩ "index.rst"
            ⟨[Line.ofString ".. configuration-block::"] ++ [Line.ofString ".. note::"]⟩ ++
          ((checkDocument ⟨.ofString "/docs", Rule.catalogue, [], {}⟩ "index.rst"
              ⟨[Line.ofString ".. note::"] ++
                [Line.ofString "    .. code-block:: php", Line.ofString "admin.yml"]⟩).filter
            fun violation => 1 < violation.location.line).map
              (Violation.movedDown 1) :=
  ⟨by decide +kernel,
    (checkDocument_cut_at_margin_directive
      (fun _ registered => Rule.isBuiltIn_of_mem_catalogue registered)
      (by decide) (by decide) "index.rst"
      [Line.ofString ".. configuration-block::"]
      [Line.ofString "    .. code-block:: php", Line.ofString "admin.yml"]).1⟩

end Analyzer

end MarkupLint
