import Mathlib.Data.List.Find
import Mathlib.Data.List.Forall2
import MarkupLint.Analyzer
import MarkupLint.Proofs.Rule.Verdict
import MarkupLint.Proofs.Text.Lowercase
import MarkupLint.Proofs.Text.Search

namespace MarkupLint

/-!
# Line ends carry no meaning

A text is cut into the lines it was put together from, whichever line ends were
used.  Nor does it matter whether lines are kept with their ends: a line end is
white space behind the line, and no built-in rule is moved by such white space.  It
does count towards the indentation of a blank line, but no rule measures that.
-/

/-- What ends a line in a file. -/
inductive LineEnd where
  | lineFeed
  | carriageReturnLineFeed
  deriving Repr, DecidableEq

/-- The characters of a line end. -/
def LineEnd.text : LineEnd → List Char
  | lineFeed => ['\n']
  | carriageReturnLineFeed => ['\r', '\n']

/-- Lines as they stand in a file: finished ones, and perhaps a last one without an end. -/
structure WrittenLines where
  finished : List (List Char × LineEnd)
  unfinished : Option (List Char)
  deriving Repr, DecidableEq

namespace WrittenLines

/-- The lines without their ends. -/
def lines
    (written : WrittenLines) :
    List (List Char) :=
  written.finished.map Prod.fst ++ written.unfinished.toList

/-- The lines with their ends. -/
def rawLines
    (written : WrittenLines) :
    List (List Char) :=
  written.finished.map (fun line => line.1 ++ line.2.text) ++ written.unfinished.toList

/--
Lines that a reader can tell from their ends: no line holds a line feed or ends in a
carriage return, and a last line without an end is not empty.
-/
structure IsReadable
    (written : WrittenLines) : Prop where
  noLineFeed :
    ∀ line ∈ written.lines, '\n' ∉ line
  noCarriageReturn :
    ∀ line ∈ written.lines, line.getLast? ≠ some '\r'
  notEmpty :
    written.unfinished ≠ some []

end WrittenLines

/-! ## Reading lines back -/

/-- One character further to the left, the row that starts there is longer by it. -/
theorem rows_cons
    {character : Char}
    {rest row : List Char}
    {following : List (List Char)}
    (notFeed : character ≠ '\n')
    (noReturnFeed : character = '\r' → rest.head? ≠ some '\n')
    (restRows : rows rest = row :: following) :
    rows (character :: rest) = (character :: row) :: following := by
  rw [rows]
  · rw [restRows]
  · exact notFeed
  · rintro tail rfl rfl
    exact noReturnFeed rfl rfl

/-- Characters that end no line go to the front of the row that follows them. -/
theorem rows_append
    {line rest row : List Char}
    {following : List (List Char)}
    (noLineFeed : '\n' ∉ line)
    (noReturnFeed : line.getLast? = some '\r' → rest.head? ≠ some '\n')
    (restRows : rows rest = row :: following) :
    rows (line ++ rest) = (line ++ row) :: following := by
  induction line with
  | nil =>
      exact restRows
  | cons first others inductionHypothesis =>
      rw [List.mem_cons, not_or] at noLineFeed
      have firstNotFeed : first ≠ '\n' :=
        Ne.symm noLineFeed.1
      cases others with
      | nil =>
          exact rows_cons firstNotFeed (by simpa using noReturnFeed) restRows
      | cons second further =>
          have secondNotFeed : second ≠ '\n' := by
            rintro rfl
            exact noLineFeed.2 (by simp)
          exact rows_cons firstNotFeed (fun _ => by simpa using secondNotFeed)
            (inductionHypothesis noLineFeed.2 (by simpa using noReturnFeed))

/-- A line and its end are read as one row. -/
theorem rows_append_lineEnd
    {line : List Char}
    (noLineFeed : '\n' ∉ line)
    (noCarriageReturn : line.getLast? ≠ some '\r')
    (lineEnd : LineEnd)
    (rest : List Char) :
    rows (line ++ (lineEnd.text ++ rest)) = line :: rows rest := by
  have endRows : rows (lineEnd.text ++ rest) = [] :: rows rest := by
    cases lineEnd <;>
      rfl
  have lineRows :=
    rows_append noLineFeed (fun isReturn => absurd isReturn noCarriageReturn) endRows
  rwa [List.append_nil] at lineRows

/-- A last line needs no end. -/
theorem rows_unfinished
    {line : List Char}
    (noLineFeed : '\n' ∉ line)
    (notEmpty : line ≠ []) :
    rows line = [line] := by
  obtain ⟨leading, last, rfl⟩ : ∃ leading last, line = leading ++ [last] :=
    ⟨_, _, (List.dropLast_concat_getLast notEmpty).symm⟩
  rw [List.mem_append, List.mem_singleton, not_or] at noLineFeed
  have lastNotFeed : last ≠ '\n' :=
    Ne.symm noLineFeed.2
  have lastRow : rows [last] = [[last]] := by
    rw [rows]
    · rfl
    · exact lastNotFeed
    · rintro tail - impossible
      cases impossible
  exact rows_append noLineFeed.1 (fun _ => by simpa using lastNotFeed) lastRow

namespace WrittenLines

theorem rows_flatten_rawLines
    {written : WrittenLines}
    (readable : written.IsReadable) :
    rows written.rawLines.flatten = written.lines := by
  obtain ⟨finished, unfinished⟩ := written
  induction finished with
  | nil =>
      cases unfinished with
      | none =>
          rfl
      | some line =>
          have isRow :=
            rows_unfinished (readable.noLineFeed line (by simp [lines]))
              (by simpa using readable.notEmpty)
          simpa [rawLines, lines] using isRow
  | cons first others inductionHypothesis =>
      have othersReadable : IsReadable ⟨others, unfinished⟩ := {
        noLineFeed := fun line member =>
          readable.noLineFeed line (List.mem_cons_of_mem first.1 member)
        noCarriageReturn := fun line member =>
          readable.noCarriageReturn line (List.mem_cons_of_mem first.1 member)
        notEmpty := readable.notEmpty
      }
      have firstRow :=
        rows_append_lineEnd
          (readable.noLineFeed first.1 (by simp [lines]))
          (readable.noCarriageReturn first.1 (by simp [lines]))
          first.2 (rawLines ⟨others, unfinished⟩).flatten
      calc
        rows (rawLines ⟨first :: others, unfinished⟩).flatten =
            rows (first.1 ++ (first.2.text ++ (rawLines ⟨others, unfinished⟩).flatten)) := by
          simp [rawLines]
        _ = first.1 :: lines ⟨others, unfinished⟩ := by
          rw [firstRow, inductionHypothesis othersReadable]
        _ = lines ⟨first :: others, unfinished⟩ := by
          rfl

end WrittenLines

/-! ## White space behind a line -/

/-- The longer line is the shorter one and white space behind it. -/
def Line.TrailedBy
    (line longer : Line) : Prop :=
  ∃ trailing,
    longer.text = line.text ++ trailing ∧
      ∀ character ∈ trailing, isWhiteSpace character = true

namespace Line.TrailedBy

variable
  {line longer : Line}
  (trailed : line.TrailedBy longer)

include trailed

theorem content_eq :
    longer.content = line.content := by
  obtain ⟨trailing, shape, white⟩ := trailed
  rw [content, content, shape, trim_append_of_white line.text white]

/-- A line with text starts where it did. -/
theorem indentation_eq
    (hasText : line.isBlank = false) :
    longer.indentation = line.indentation := by
  obtain ⟨trailing, shape, -⟩ := trailed
  have notWhite : ¬ (line.text.takeWhile isWhiteSpace).length = line.text.length := by
    intro whole
    have allWhite : ∀ character ∈ line.text, isWhiteSpace character = true := by
      apply List.takeWhile_eq_self_iff.mp
      exact (List.takeWhile_prefix isWhiteSpace).eq_of_length whole
    have blank : line.isBlank = true := by
      rw [isBlank, content, trim_eq_nil_iff.mpr allWhite]
      rfl
    rw [hasText] at blank
    cases blank
  rw [indentation, indentation, shape, List.takeWhile_append, if_neg notWhite]

end Line.TrailedBy

/-! ## Verdicts on lines with and without ends -/

theorem isBelowTitle_eq_of_trailedBy
    {above longerAbove : List Line}
    (trailed : List.Forall₂ Line.TrailedBy above longerAbove) :
    isBelowTitle longerAbove = isBelowTitle above := by
  induction trailed with
  | nil =>
      rfl
  | @cons line longer rest longerRest lineTrailed restTrailed inductionHypothesis =>
      cases blank : line.isBlank with
      | true =>
          simpa [isBelowTitle, Line.isBlank_of_content_eq lineTrailed.content_eq, blank] using
            inductionHypothesis
      | false =>
          simp [isBelowTitle, Line.isBlank_of_content_eq lineTrailed.content_eq, blank,
            Line.isHeadline_of_content_eq lineTrailed.content_eq]

/-- A line may have become wider, but then it opens nothing at any column. -/
theorem blockAbove?_eq_of_trailedBy
    {above longerAbove : List Line}
    (trailed : List.Forall₂ Line.TrailedBy above longerAbove)
    (column : Nat) :
    blockAbove? column longerAbove = blockAbove? column above := by
  induction trailed with
  | nil =>
      rfl
  | @cons line longer rest longerRest lineTrailed restTrailed inductionHypothesis =>
      simp only [blockAbove?] at inductionHypothesis
      cases blank : line.isBlank with
      | true =>
          have opensNothing := Directive.ofLine?_eq_none_of_isBlank blank
          simp [blockAbove?, Line.ofLine?_of_content_eq lineTrailed.content_eq, opensNothing,
            inductionHypothesis]
      | false =>
          simp [blockAbove?, List.findSome?_cons, Line.ofLine?_of_content_eq lineTrailed.content_eq,
            lineTrailed.indentation_eq blank, inductionHypothesis]

theorem ExplicitPhpBlock.verdict_eq_of_trailedBy
    {above longerAbove : List Line}
    {line longer : Line}
    (aboveTrailed : List.Forall₂ Line.TrailedBy above longerAbove)
    (trailed : line.TrailedBy longer) :
    verdict longerAbove longer = verdict above line := by
  cases blank : line.isBlank with
  | true =>
      have opensNothing : line.opensCodeBlock .php true = false := by
        rw [Line.opensCodeBlock, Directive.ofLine?_eq_none_of_isBlank blank]
      simp only [verdict, Line.opensCodeBlock_of_content_eq trailed.content_eq, opensNothing,
        Bool.false_and]
  | false =>
      simp only [verdict, Line.opensCodeBlock_of_content_eq trailed.content_eq,
        trailed.indentation_eq blank,
        isBelowTitle_eq_of_trailedBy aboveTrailed, blockAbove?_eq_of_trailedBy aboveTrailed]

theorem LegacyAdminFile.isMisusedIn_append_of_white
    {name : LegacyName}
    (isLegacy : name ∈ legacyNames)
    (text : List Char)
    {trailing : List Char}
    (white : ∀ character ∈ trailing, isWhiteSpace character = true) :
    name.isMisusedIn (text ++ trailing) = name.isMisusedIn text := by
  have visible :
      ∀ name ∈ legacyNames,
        (name.legacy.toList ≠ [] ∧ name.legacy.toList.all (!isWhiteSpace ·) = true) ∧
          name.allowed.toList ≠ [] ∧ name.allowed.toList.all (!isWhiteSpace ·) = true := by
    decide
  have foreign
      {piece : List Char}
      (pieceVisible : piece.all (!isWhiteSpace ·) = true) :
      ∀ character ∈ trailing, character ∉ piece := by
    intro character member inPiece
    have notWhite := List.all_eq_true.mp pieceVisible character inPiece
    rw [white character member] at notWhite
    cases notWhite
  obtain ⟨⟨legacyNotEmpty, legacyVisible⟩, allowedNotEmpty, allowedVisible⟩ :=
    visible name isLegacy
  rw [LegacyName.isMisusedIn, LegacyName.isMisusedIn,
    occursIn_append_of_foreign legacyNotEmpty (foreign legacyVisible),
    occursIn_append_of_foreign allowedNotEmpty (foreign allowedVisible)]

theorem LegacyAdminFile.verdict_eq_of_trailedBy
    {line longer : Line}
    (trailed : line.TrailedBy longer) :
    verdict longer = verdict line := by
  obtain ⟨trailing, shape, white⟩ := trailed
  rw [verdict, verdict, shape, lowercase_append_of_white line.text white]
  congr 1
  apply List.find?_congr
  intro name isLegacy
  exact isMisusedIn_append_of_white isLegacy _ white

/-! ## Documents with and without line ends -/

/-- The lines of the longer document are those of the other one with white space behind them. -/
def Document.TrailedBy
    (document longer : Document) : Prop :=
  List.Forall₂ Line.TrailedBy document.lines longer.lines

namespace Document.TrailedBy

variable
  {document longer : Document}
  (trailed : document.TrailedBy longer)

include trailed

theorem size_eq :
    longer.size = document.size :=
  trailed.length_eq.symm

theorem get?_rel
    (index : Nat) :
    Option.Rel Line.TrailedBy (document.get? index) (longer.get? index) := by
  obtain ⟨sameLength, atEach⟩ := List.forall₂_iff_get.mp trailed
  by_cases inside : index < document.lines.length
  · have longerInside : index < longer.lines.length :=
      sameLength ▸ inside
    have lineTrailed := atEach index inside longerInside
    simpa [get?, inside, longerInside] using lineTrailed
  · have longerOutside : ¬ index < longer.lines.length :=
      sameLength ▸ inside
    simp [get?, inside, longerOutside]

theorem linesAbove
    (index : Nat) :
    List.Forall₂ Line.TrailedBy (document.linesAbove index) (longer.linesAbove index) :=
  List.rel_reverse (List.forall₂_take index trailed)

end Document.TrailedBy

/-- No built-in rule is moved by white space behind the lines. -/
theorem Rule.IsBuiltIn.check_eq_of_trailedBy
    {rule : Rule}
    (builtIn : rule.IsBuiltIn)
    {document longer : Document}
    (trailed : document.TrailedBy longer)
    (index : Nat) :
    rule.check longer index = rule.check document index := by
  have sameLine := trailed.get?_rel index
  rcases builtIn with ⟨severity, rfl⟩ | rfl
  · simp only [ExplicitPhpBlock.rule, ExplicitPhpBlock.check_eq_verdict]
    generalize document.get? index = found, longer.get? index = longerFound at sameLine ⊢
    cases sameLine with
    | none =>
        rfl
    | some lineTrailed =>
        exact ExplicitPhpBlock.verdict_eq_of_trailedBy (trailed.linesAbove index) lineTrailed
  · simp only [LegacyAdminFile.rule, LegacyAdminFile.check_eq_verdict]
    generalize document.get? index = found, longer.get? index = longerFound at sameLine ⊢
    cases sameLine with
    | none =>
        rfl
    | some lineTrailed =>
        exact LegacyAdminFile.verdict_eq_of_trailedBy lineTrailed

theorem Analyzer.checkDocument_eq_of_trailedBy
    {analyzer : Analyzer}
    (builtIn : ∀ rule ∈ analyzer.rules, rule.IsBuiltIn)
    {document longer : Document}
    (trailed : document.TrailedBy longer)
    (file : Path) :
    analyzer.checkDocument file longer = analyzer.checkDocument file document := by
  rw [checkDocument, checkDocument, trailed.size_eq]
  apply List.flatMap_congr
  intro index _
  apply List.filterMap_congr
  intro rule active
  have registered : rule ∈ analyzer.rules :=
    (List.mem_filter.mp active).1
  rw [violation?, violation?, (builtIn rule registered).check_eq_of_trailedBy trailed]

namespace WrittenLines

theorem white_of_mem_lineEnd
    (lineEnd : LineEnd) :
    ∀ character ∈ lineEnd.text, isWhiteSpace character = true := by
  apply List.all_eq_true.mp
  cases lineEnd <;>
    decide

/-- Lines that are kept with their ends are the lines with white space behind them. -/
theorem trailedBy_rawLines
    (written : WrittenLines) :
    (Document.ofLines written.lines).TrailedBy (Document.ofLines written.rawLines) := by
  have finished :
      List.Forall₂ Line.TrailedBy
        (written.finished.map fun line => ⟨line.1⟩)
        (written.finished.map fun line => ⟨line.1 ++ line.2.text⟩) := by
    rw [List.forall₂_map_left_iff, List.forall₂_map_right_iff, List.forall₂_same]
    intro line _
    exact ⟨line.2.text, rfl, white_of_mem_lineEnd line.2⟩
  have unfinished :
      List.Forall₂ Line.TrailedBy
        (written.unfinished.toList.map Line.mk) (written.unfinished.toList.map Line.mk) := by
    rw [List.forall₂_same]
    intro line _
    exact ⟨[], (List.append_nil line.text).symm, by simp⟩
  simpa [Document.TrailedBy, Document.ofLines, lines, rawLines, Function.comp_def] using
    List.rel_append finished unfinished

/--
Line ends carry no meaning.  Lines that were written with any mixture of line ends,
the last one perhaps without an end, are read back as they were; and the built-in
rules report the same whether the lines are kept with their ends or without.
-/
theorem lineEnds_carry_no_meaning
    {written : WrittenLines}
    (readable : written.IsReadable) :
    Document.ofText written.rawLines.flatten = Document.ofLines written.lines ∧
      ∀ (analyzer : Analyzer) (file : Path),
        (∀ rule ∈ analyzer.rules, rule.IsBuiltIn) →
        analyzer.checkDocument file (Document.ofText written.rawLines.flatten) =
          analyzer.checkDocument file (Document.ofLines written.rawLines) := by
  have readBack : Document.ofText written.rawLines.flatten = Document.ofLines written.lines :=
    congrArg Document.ofLines (rows_flatten_rawLines readable)
  refine ⟨readBack, ?_⟩
  intro analyzer file builtIn
  rw [readBack]
  exact (Analyzer.checkDocument_eq_of_trailedBy builtIn written.trailedBy_rawLines file).symm

/-- A page with both line ends, a blank line, and a last line that is cut off. -/
theorem lineEnds_carry_no_meaning_in_page :
    IsReadable
        ⟨[("ADMIN.YML".toList, .lineFeed), ([], .carriageReturnLineFeed)],
          some "  .. code-block:: php".toList⟩ ∧
      (Analyzer.checkDocument ⟨.ofString "/docs", Rule.catalogue, [], {}⟩ "index.rst"
          (.ofText "ADMIN.YML\n\r\n  .. code-block:: php".toList)).map
            (fun violation => violation.location.line) = [1, 3] ∧
      Analyzer.checkDocument ⟨.ofString "/docs", Rule.catalogue, [], {}⟩ "index.rst"
          (.ofText "ADMIN.YML\n\r\n  .. code-block:: php".toList) =
        Analyzer.checkDocument ⟨.ofString "/docs", Rule.catalogue, [], {}⟩ "index.rst"
          (.ofLines ["ADMIN.YML\n".toList, "\r\n".toList, "  .. code-block:: php".toList]) := by
  have readable :
      IsReadable
        ⟨[("ADMIN.YML".toList, .lineFeed), ([], .carriageReturnLineFeed)],
          some "  .. code-block:: php".toList⟩ := {
    noLineFeed := by decide
    noCarriageReturn := by decide
    notEmpty := by decide
  }
  refine ⟨readable, by decide, ?_⟩
  exact (lineEnds_carry_no_meaning readable).2 ⟨.ofString "/docs", Rule.catalogue, [], {}⟩
    "index.rst" fun _ registered => Rule.isBuiltIn_of_mem_catalogue registered

end WrittenLines

end MarkupLint
