import MarkupLint.Context
import MarkupLint.Proofs.Text.Run

namespace MarkupLint

/-!
# The nearest line above

The scans of a context walk up from an index and stop at the first line that
decides the answer.  This module says what such a scan finds without walking:
the nearest line above the index with a given property.
-/

/-- A blank line opens no directive. -/
theorem Directive.ofLine?_eq_none_of_isBlank
    {line : Line}
    (blank : line.isBlank = true) :
    Directive.ofLine? line = none := by
  have noContent : line.content = [] := by
    simpa [Line.isBlank] using blank
  rw [Directive.ofLine?, noContent]
  rfl

/-- The line holds more than white space. -/
def Line.HasText
    (line : Line) : Prop :=
  trim line.text ≠ []

theorem Line.hasText_iff
    {line : Line} :
    line.HasText ↔ line.isBlank = false := by
  simp [HasText, isBlank, content]

/-- The text of the line starts with so many white-space characters and no more. -/
def Line.IsIndentedBy
    (line : Line)
    (width : Nat) : Prop :=
  ∃ margin rest,
    line.text = margin ++ rest ∧
      (∀ character ∈ margin, isWhiteSpace character = true) ∧
      Stops isWhiteSpace rest ∧
      margin.length = width

theorem Line.isIndentedBy_iff
    {line : Line}
    {width : Nat} :
    line.IsIndentedBy width ↔ line.indentation = width := by
  constructor
  · rintro ⟨margin, rest, shape, white, stops, rfl⟩
    rw [indentation, (longestRun_iff.mpr ⟨shape, white, stops⟩).1]
  · rintro rfl
    obtain ⟨shape, white, stops⟩ :=
      longestRun_iff.mp (⟨rfl, rfl⟩ : line.text.takeWhile isWhiteSpace = _ ∧ _)
    exact ⟨_, _, shape, white, stops, rfl⟩

namespace Document

@[simp] theorem linesBefore_zero
    (document : Document) :
    document.linesBefore 0 = [] := by
  simp [linesBefore]

/-- One index further down, the walk starts at one more line. -/
theorem linesBefore_succ_of_some
    {document : Document}
    {index : Nat}
    {line : Line}
    (isLine : document.get? index = some line) :
    document.linesBefore (index + 1) =
      (line, index) :: document.linesBefore index := by
  have inside : index < document.lines.length :=
    (List.getElem?_eq_some_iff.mp isLine).1
  have taken :
      document.lines.take (index + 1) =
        document.lines.take index ++ [line] := by
    rw [List.take_add_one, show document.lines[index]? = some line from isLine]
    rfl
  simp [linesBefore, taken, List.zipIdx_append, Nat.min_eq_left (Nat.le_of_lt inside)]

theorem linesBefore_succ_of_none
    {document : Document}
    {index : Nat}
    (pastEnd : document.get? index = none) :
    document.linesBefore (index + 1) = document.linesBefore index := by
  have taken :
      document.lines.take (index + 1) = document.lines.take index := by
    rw [List.take_add_one, show document.lines[index]? = none from pastEnd]
    simp
  simp only [linesBefore, taken]

/-- The line at `above` is the nearest line above the index with the property. -/
structure NearestAbove
    (document : Document)
    (index : Nat)
    (property : Line → Prop)
    (line : Line)
    (above : Nat) : Prop where
  isAbove :
    above < index
  isLine :
    document.lines[above]? = some line
  holds :
    property line
  nearest :
    ∀ between other,
      above < between →
      between < index →
      document.lines[between]? = some other →
      ¬ property other

namespace NearestAbove

/-- A line with the property is the nearest one for the index right below it. -/
theorem directlyAbove
    {document : Document}
    {index : Nat}
    {property : Line → Prop}
    {line : Line}
    (isLine : document.get? index = some line)
    (holds : property line) :
    document.NearestAbove (index + 1) property line index where
  isAbove :=
    Nat.lt_succ_self index
  isLine :=
    isLine
  holds :=
    holds
  nearest between other above below := by
    omega

theorem unique
    {document : Document}
    {index : Nat}
    {property : Line → Prop}
    {first second : Line}
    {firstAbove secondAbove : Nat}
    (nearest : document.NearestAbove index property first firstAbove)
    (alsoNearest : document.NearestAbove index property second secondAbove) :
    first = second ∧ firstAbove = secondAbove := by
  have same : firstAbove = secondAbove := by
    rcases Nat.lt_trichotomy firstAbove secondAbove with before | same | after
    · exact
        (nearest.nearest secondAbove second before alsoNearest.isAbove
          alsoNearest.isLine alsoNearest.holds).elim
    · exact same
    · exact
        (alsoNearest.nearest firstAbove first after nearest.isAbove
          nearest.isLine nearest.holds).elim
  subst same
  have sameLine := nearest.isLine.symm.trans alsoNearest.isLine
  exact ⟨Option.some.inj sameLine, rfl⟩

/-- An index without a line of the property can be stepped over. -/
theorem succ_iff
    {document : Document}
    {index : Nat}
    {property : Line → Prop}
    {line : Line}
    {above : Nat}
    (passedOver :
      ∀ other,
        document.get? index = some other →
        ¬ property other) :
    document.NearestAbove (index + 1) property line above ↔
      document.NearestAbove index property line above := by
  constructor
  · intro nearest
    have notHere : above ≠ index := by
      rintro rfl
      exact passedOver line nearest.isLine nearest.holds
    have isAbove := nearest.isAbove
    exact {
      isAbove := by omega
      isLine := nearest.isLine
      holds := nearest.holds
      nearest := fun between other after before =>
        nearest.nearest between other after (by omega)
    }
  · intro nearest
    exact {
      isAbove := Nat.lt_succ_of_lt nearest.isAbove
      isLine := nearest.isLine
      holds := nearest.holds
      nearest := by
        intro between other after before isLine
        rcases Nat.lt_succ_iff_lt_or_eq.mp before with inside | rfl
        · exact nearest.nearest between other after inside isLine
        · exact passedOver other isLine
    }

/-- If a line above has the property, there is a nearest one, and it is no further up. -/
theorem exists_of_holds
    {document : Document}
    {index above : Nat}
    {property : Line → Prop}
    {line : Line}
    (isAbove : above < index)
    (isLine : document.get? above = some line)
    (holds : property line) :
    ∃ nearestLine nearestIndex,
      document.NearestAbove index property nearestLine nearestIndex ∧
        above ≤ nearestIndex := by
  induction index with
  | zero =>
      exact absurd isAbove (Nat.not_lt_zero above)
  | succ index inductionHypothesis =>
      by_cases here :
          ∃ other,
            document.get? index = some other ∧ property other
      · obtain ⟨other, isOther, otherHolds⟩ := here
        exact ⟨other, index, .directlyAbove isOther otherHolds, Nat.le_of_lt_succ isAbove⟩
      · have notHere : above ≠ index := by
          intro same
          subst same
          exact here ⟨line, isLine, holds⟩
        obtain ⟨other, found, nearest, notAbove⟩ :=
          inductionHypothesis (Nat.lt_of_le_of_ne (Nat.le_of_lt_succ isAbove) notHere)
        have passedOver :
            ∀ other,
              document.get? index = some other →
              ¬ property other :=
          fun other isOther otherHolds => here ⟨other, isOther, otherHolds⟩
        exact ⟨other, found, (succ_iff passedOver).mpr nearest, notAbove⟩

end NearestAbove

/--
A scan that answers at the lines with a property finds the answer at the nearest line
above that has it.  One index further down, the line at the index either answers or is
passed over.
-/
theorem findSome?_linesBefore_eq_some_iff
    {document : Document}
    {index : Nat}
    {answer : Line × Nat → Option α}
    (property : Line → Prop)
    (answers : ∀ entry, (answer entry).isSome = true ↔ property entry.1)
    {result : α} :
    (document.linesBefore index).findSome? answer = some result ↔
      ∃ line above,
        document.NearestAbove index property line above ∧
          answer (line, above) = some result := by
  induction index with
  | zero =>
      simp only [linesBefore_zero, List.findSome?_nil]
      constructor
      · intro impossible
        cases impossible
      · rintro ⟨line, above, nearest, -⟩
        exact (Nat.not_lt_zero above nearest.isAbove).elim
  | succ index inductionHypothesis =>
      cases atIndex : document.get? index with
      | none =>
          have passedOver :
              ∀ other,
                document.get? index = some other →
                ¬ property other := by
            simp [atIndex]
          rw [linesBefore_succ_of_none atIndex, inductionHypothesis]
          simp only [NearestAbove.succ_iff passedOver]
      | some line =>
          rw [linesBefore_succ_of_some atIndex, List.findSome?_cons]
          cases answered : answer (line, index) with
          | none =>
              have passedOver :
                  ∀ other,
                    document.get? index = some other →
                    ¬ property other := by
                intro other isLine holds
                obtain rfl : line = other :=
                  Option.some.inj (atIndex.symm.trans isLine)
                have isSome := (answers (line, index)).mpr holds
                simp [answered] at isSome
              simp only [NearestAbove.succ_iff passedOver]
              exact inductionHypothesis
          | some found =>
              have holds : property line :=
                (answers (line, index)).mp (by simp [answered])
              have here := NearestAbove.directlyAbove atIndex holds
              constructor
              · intro same
                exact ⟨line, index, here, answered.trans same⟩
              · rintro ⟨other, above, nearest, result⟩
                obtain ⟨rfl, rfl⟩ := here.unique nearest
                exact answered.symm.trans result

/-- The scan for text finds the nearest line above that is not blank. -/
theorem previousNonBlank?_eq_some_iff
    {document : Document}
    {index : Nat}
    {line : Line}
    {above : Nat} :
    document.previousNonBlank? index = some (line, above) ↔
      document.NearestAbove index Line.HasText line above := by
  rw [previousNonBlank?, List.find?_eq_findSome?_guard,
    findSome?_linesBefore_eq_some_iff
      Line.HasText
      (by simp [Option.isSome_guard, Line.hasText_iff])]
  constructor
  · rintro ⟨other, otherAbove, nearest, same⟩
    obtain ⟨shape, -⟩ := Option.guard_eq_some_iff.mp same
    cases shape
    exact nearest
  · intro nearest
    refine ⟨line, above, nearest, ?_⟩
    simp [Option.guard, Line.hasText_iff.mp nearest.holds]

/-- A title stands directly above when the nearest line with text is a title. -/
theorem isDirectlyAfterHeadline_iff
    {document : Document}
    {index : Nat} :
    document.isDirectlyAfterHeadline index = true ↔
      ∃ line above,
        document.NearestAbove index Line.HasText line above ∧
          line.isHeadline = true := by
  simp only [← previousNonBlank?_eq_some_iff, isDirectlyAfterHeadline]
  cases document.previousNonBlank? index with
  | none =>
      simp
  | some found =>
      obtain ⟨line, above⟩ := found
      simp

/-- The test for blank lines is no restriction on the lines that open a directive. -/
theorem opening?_eq
    (column : Nat)
    (entry : Line × Nat) :
    opening? column entry =
      if entry.1.indentation < column then
        (Directive.ofLine? entry.1).map (EnclosingDirective.mk entry.2)
      else
        none := by
  by_cases blank : entry.1.isBlank = true
  · simp [opening?, blank, Directive.ofLine?_eq_none_of_isBlank blank]
  · by_cases left : entry.1.indentation < column
    · simp [opening?, blank, left, Nat.not_le.mpr left]
    · simp [opening?, left, Nat.not_lt.mp left]

/-- One index further down, the scan tries one more line first. -/
theorem enclosingDirective?_succ_of_some
    {document : Document}
    {index : Nat}
    {line : Line}
    (isLine : document.get? index = some line)
    (column : Nat) :
    document.enclosingDirective? (index + 1) column =
      (opening? column (line, index)).or (document.enclosingDirective? index column) := by
  simp only [enclosingDirective?, linesBefore_succ_of_some isLine, List.findSome?_cons]
  cases opening? column (line, index) <;>
    rfl

theorem enclosingDirective?_succ_of_none
    {document : Document}
    {index : Nat}
    (pastEnd : document.get? index = none)
    (column : Nat) :
    document.enclosingDirective? (index + 1) column =
      document.enclosingDirective? index column := by
  simp only [enclosingDirective?, linesBefore_succ_of_none pastEnd]

/-- The line opens a directive left of the column. -/
def OpensLeftOf
    (column : Nat)
    (line : Line) : Prop :=
  (∃ width < column, line.IsIndentedBy width) ∧ line.isDirective = true

theorem opensLeftOf_iff
    {column : Nat}
    {line : Line} :
    OpensLeftOf column line ↔ line.indentation < column ∧ line.isDirective = true := by
  simp [OpensLeftOf, Line.isIndentedBy_iff]

theorem OpensLeftOf.indentation_lt
    {column : Nat}
    {line : Line}
    (opens : OpensLeftOf column line) :
    line.indentation < column :=
  (opensLeftOf_iff.mp opens).1

/-- The scan for a block finds the nearest directive above that starts left of the column. -/
theorem enclosingDirective?_eq_some_iff
    {document : Document}
    {index column : Nat}
    {found : EnclosingDirective} :
    document.enclosingDirective? index column = some found ↔
      ∃ line,
        document.NearestAbove index (OpensLeftOf column) line found.index ∧
          Directive.ofLine? line = some found.directive := by
  have answers :
      ∀ entry : Line × Nat,
        (opening? column entry).isSome = true ↔ OpensLeftOf column entry.1 := by
    intro entry
    by_cases left : entry.1.indentation < column
    · simp [opening?_eq, opensLeftOf_iff, Line.isDirective, left]
    · simp [opening?_eq, opensLeftOf_iff, left]
  rw [enclosingDirective?, findSome?_linesBefore_eq_some_iff (OpensLeftOf column) answers]
  constructor
  · rintro ⟨line, above, nearest, opened⟩
    rw [opening?_eq, if_pos nearest.holds.indentation_lt] at opened
    obtain ⟨directive, parsed, rfl⟩ := Option.map_eq_some_iff.mp opened
    exact ⟨line, nearest, parsed⟩
  · rintro ⟨line, nearest, parsed⟩
    refine ⟨line, found.index, nearest, ?_⟩
    rw [opening?_eq, if_pos nearest.holds.indentation_lt, parsed]
    rfl

/-- A block of a kind encloses the index when the nearest opening line has that kind. -/
theorem isEnclosedBy_iff
    {document : Document}
    {index column : Nat}
    {kind : DirectiveKind} :
    document.isEnclosedBy index column kind = true ↔
      ∃ line above,
        document.NearestAbove index (OpensLeftOf column) line above ∧
          line.opens kind = true := by
  rw [isEnclosedBy, beq_iff_eq, Option.bind_eq_some_iff]
  constructor
  · rintro ⟨found, scanned, sameKind⟩
    obtain ⟨line, nearest, parsed⟩ := enclosingDirective?_eq_some_iff.mp scanned
    refine ⟨line, found.index, nearest, ?_⟩
    simp [Line.opens, parsed, sameKind]
  · rintro ⟨line, above, nearest, opensKind⟩
    rw [Line.opens, beq_iff_eq, Option.bind_eq_some_iff] at opensKind
    obtain ⟨directive, parsed, sameKind⟩ := opensKind
    exact ⟨⟨above, directive⟩,
      enclosingDirective?_eq_some_iff.mpr ⟨line, nearest, parsed⟩, sameKind⟩

end Document

end MarkupLint
