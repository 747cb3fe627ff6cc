import MarkupLint.Proofs.Rule.Verdict

namespace MarkupLint

/-!
# Blocks that are still open

A block ends where a line stands at or left of the column of the line that opens it.
The scan for the enclosing directive asks this of directives only: a directive between
it and the line it encloses starts further right, so no directive has closed its block.
Text is passed over.  It may stand at any column and closes nothing, so the directive
that is found may be one whose block a line of text has ended.
-/

namespace Document

/--
The block of the line at `above` is closed before the index: a line with the property
stands between them, at or left of the column of the line that opens the block.
-/
def IsClosedBefore
    (document : Document)
    (closes : Line → Prop)
    (above index : Nat) : Prop :=
  ∃ opener between other,
    document.get? above = some opener ∧
      above < between ∧
      between < index ∧
      document.get? between = some other ∧
      closes other ∧
      other.indentation ≤ opener.indentation

/-- Above the index the documents have the same directives, at the same indices. -/
def SameDirectivesAbove
    (document other : Document)
    (index : Nat) : Prop :=
  ∀ above line,
    above < index →
    line.isDirective = true →
    (document.get? above = some line ↔ other.get? above = some line)

/-- The nearest directive left of a column starts left of every directive below it. -/
theorem NearestAbove.not_isClosedBefore
    {document : Document}
    {index column above : Nat}
    {opener : Line}
    (nearest : document.NearestAbove index (OpensLeftOf column) opener above) :
    ¬ document.IsClosedBefore (fun line => line.isDirective = true) above index := by
  rintro ⟨line, between, other, isLine, below, before, isOther, opens, notRight⟩
  obtain rfl : opener = line :=
    Option.some.inj (nearest.isLine.symm.trans isLine)
  have left : other.indentation < column :=
    Nat.lt_of_le_of_lt notRight nearest.holds.indentation_lt
  exact nearest.nearest between other below before isOther (opensLeftOf_iff.mpr ⟨left, opens⟩)

/-- A nearest line is found among the lines that have the property, so no other lines matter. -/
theorem NearestAbove.of_same
    {document other : Document}
    {index above : Nat}
    {property : Line → Prop}
    {line : Line}
    (same :
      ∀ between candidate,
        between < index →
        property candidate →
        (document.get? between = some candidate ↔ other.get? between = some candidate))
    (nearest : document.NearestAbove index property line above) :
    other.NearestAbove index property line above where
  isAbove :=
    nearest.isAbove
  isLine :=
    (same above line nearest.isAbove nearest.holds).mp nearest.isLine
  holds :=
    nearest.holds
  nearest between candidate after before isLine holds :=
    nearest.nearest between candidate after before
      ((same between candidate before holds).mpr isLine) holds

/-- The scan for a block sees only the directives above. -/
theorem enclosingDirective?_eq_of_sameDirectivesAbove
    {document other : Document}
    {index : Nat}
    (same : document.SameDirectivesAbove other index)
    (column : Nat) :
    other.enclosingDirective? index column = document.enclosingDirective? index column := by
  apply Option.ext
  intro found
  rw [enclosingDirective?_eq_some_iff, enclosingDirective?_eq_some_iff]
  constructor
  · rintro ⟨line, nearest, parsed⟩
    refine ⟨line, nearest.of_same ?_, parsed⟩
    intro between candidate before opens
    exact (same between candidate before opens.2).symm
  · rintro ⟨line, nearest, parsed⟩
    refine ⟨line, nearest.of_same ?_, parsed⟩
    intro between candidate before opens
    exact same between candidate before opens.2

/-- The scan for a block finds one as soon as a directive above starts left of the column. -/
theorem isSome_enclosingDirective?_iff
    {document : Document}
    {index column : Nat} :
    (document.enclosingDirective? index column).isSome = true ↔
      ∃ above opener,
        above < index ∧
          document.get? above = some opener ∧
          OpensLeftOf column opener := by
  rw [Option.isSome_iff_exists]
  constructor
  · rintro ⟨found, scanned⟩
    obtain ⟨opener, nearest, -⟩ := enclosingDirective?_eq_some_iff.mp scanned
    exact ⟨found.index, opener, nearest.isAbove, nearest.isLine, nearest.holds⟩
  · rintro ⟨above, opener, isAbove, isLine, opens⟩
    obtain ⟨line, nearestAbove, nearest, -⟩ :=
      NearestAbove.exists_of_holds isAbove isLine opens
    obtain ⟨directive, parsed⟩ := Option.isSome_iff_exists.mp nearest.holds.2
    exact
      ⟨⟨nearestAbove, directive⟩, enclosingDirective?_eq_some_iff.mpr ⟨line, nearest, parsed⟩⟩

end Document

namespace ExplicitPhpBlock

/-- An indented PHP block is not reported if a configuration block encloses it. -/
theorem check_eq_none_iff_isEnclosedBy
    {document : Document}
    {index : Nat}
    {line : Line}
    (isLine : document.get? index = some line)
    (opensPhp : line.opensCodeBlock .php true = true)
    (indented : 0 < line.indentation) :
    check document index = none ↔
      document.isEnclosedBy index line.indentation .configurationBlock = true := by
  have place :
      isAllowedAt document index line =
        document.isEnclosedBy index line.indentation .configurationBlock := by
    rw [isAllowedAt, if_neg (Nat.ne_of_gt indented)]
  simp [check_of_get?_eq_some isLine, opensPhp, place]

end ExplicitPhpBlock

namespace Document

/--
No directive has closed the block of the enclosing directive, which is there as soon as
a directive above starts left of the column; and nothing but a directive can make a
difference: lines that open none are passed over at any column.  An indented PHP block is
therefore excused by the nearest directive left of it, if that opens a configuration
block, and never by a configuration block that a directive has closed.
-/
theorem enclosing_block_not_closed_by_directive
    (document : Document)
    (index : Nat) :
    (∀ column found,
      document.enclosingDirective? index column = some found →
      ¬ document.IsClosedBefore (fun line => line.isDirective = true) found.index index) ∧
    (∀ column,
      (document.enclosingDirective? index column).isSome = true ↔
        ∃ above opener,
          above < index ∧
            document.get? above = some opener ∧
            OpensLeftOf column opener) ∧
    (∀ other column,
      document.SameDirectivesAbove other index →
      other.enclosingDirective? index column = document.enclosingDirective? index column) ∧
    ∀ line,
      document.get? index = some line →
      line.opensCodeBlock .php true = true →
      0 < line.indentation →
      (ExplicitPhpBlock.check document index = none ↔
        ∃ opener above,
          document.NearestAbove index (OpensLeftOf line.indentation) opener above ∧
            opener.opens .configurationBlock = true ∧
            ¬ document.IsClosedBefore (fun line => line.isDirective = true) above index) := by
  refine ⟨?_, fun column => isSome_enclosingDirective?_iff, ?_, ?_⟩
  · intro column found scanned
    obtain ⟨opener, nearest, -⟩ := enclosingDirective?_eq_some_iff.mp scanned
    exact nearest.not_isClosedBefore
  · intro other column same
    exact enclosingDirective?_eq_of_sameDirectivesAbove same column
  · intro line isLine opensPhp indented
    rw [ExplicitPhpBlock.check_eq_none_iff_isEnclosedBy isLine opensPhp indented,
      isEnclosedBy_iff]
    constructor
    · rintro ⟨opener, above, nearest, opensBlock⟩
      exact ⟨opener, above, nearest, opensBlock, nearest.not_isClosedBefore⟩
    · rintro ⟨opener, above, nearest, opensBlock, -⟩
      exact ⟨opener, above, nearest, opensBlock⟩

/-- A configuration block, a line of text at its column, and two code blocks further right. -/
def interruptedPage : Document :=
  .ofLines
    [".. configuration-block::".toList,
      "Some text.".toList,
      "    .. code-block:: yaml".toList,
      "    .. code-block:: php".toList]

/-- The same directives with a blank line in place of the text. -/
def uninterruptedPage : Document :=
  .ofLines
    [".. configuration-block::".toList,
      [],
      "    .. code-block:: yaml".toList,
      "    .. code-block:: php".toList]

theorem enclosing_block_not_closed_by_directive_in_page :
    interruptedPage.enclosingDirective? 3 4 =
        some ⟨0, .named "configuration-block".toList none⟩ ∧
      ¬ interruptedPage.IsClosedBefore (fun line => line.isDirective = true) 0 3 ∧
      uninterruptedPage.enclosingDirective? 3 4 = interruptedPage.enclosingDirective? 3 4 ∧
      ∃ opener above,
        interruptedPage.NearestAbove 3 (OpensLeftOf 4) opener above ∧
          opener.opens .configurationBlock = true ∧
          ¬ interruptedPage.IsClosedBefore (fun line => line.isDirective = true) above 3 := by
  have scanned :
      interruptedPage.enclosingDirective? 3 4 =
        some ⟨0, .named "configuration-block".toList none⟩ := rfl
  have sameDirectives : interruptedPage.SameDirectivesAbove uninterruptedPage 3 := by
    intro above line before opens
    have inText : above = 0 ∨ above = 1 ∨ above = 2 := by
      omega
    rcases inText with rfl | rfl | rfl
    · rfl
    · constructor
      · intro isLine
        obtain rfl := Option.some.inj isLine
        exact absurd opens (by decide)
      · intro isLine
        obtain rfl := Option.some.inj isLine
        exact absurd opens (by decide)
    · rfl
  obtain ⟨notClosed, -, passesOver, excuses⟩ :=
    enclosing_block_not_closed_by_directive interruptedPage 3
  exact
    ⟨scanned, notClosed 4 _ scanned, passesOver uninterruptedPage 4 sameDirectives,
      (excuses ⟨"    .. code-block:: php".toList⟩ rfl (by decide) (by decide)).mp (by decide)⟩

/--
Text closes a block for a reader, but not for the scan: below a line of text at the
column of a configuration block, that block still encloses and excuses a PHP block.
-/
theorem closed_block_still_encloses :
    (¬ ∀ (document : Document) (index : Nat) (line : Line) (found : EnclosingDirective),
        document.get? index = some line →
        line.isBlank = false →
        document.enclosingDirective? index line.indentation = some found →
        ¬ document.IsClosedBefore (fun other => other.isBlank = false) found.index index) ∧
      ¬ ∀ (document : Document) (index : Nat) (line : Line),
        document.get? index = some line →
        line.opensCodeBlock .php true = true →
        0 < line.indentation →
        ExplicitPhpBlock.check document index = none →
        ∃ above opener,
          document.get? above = some opener ∧
            opener.opens .configurationBlock = true ∧
            above < index ∧
            ¬ document.IsClosedBefore (fun other => other.isBlank = false) above index := by
  have isClosed :
      interruptedPage.IsClosedBefore (fun other => other.isBlank = false) 0 3 :=
    ⟨⟨".. configuration-block::".toList⟩, 1, ⟨"Some text.".toList⟩,
      rfl, by decide, by decide, rfl, by decide, by decide⟩
  constructor
  · intro staysOpen
    exact
      staysOpen interruptedPage 3 ⟨"    .. code-block:: php".toList⟩
        ⟨0, .named "configuration-block".toList none⟩ rfl (by decide) rfl isClosed
  · intro excusedInside
    obtain ⟨above, opener, isOpener, opensBlock, before, notClosed⟩ :=
      excusedInside interruptedPage 3 ⟨"    .. code-block:: php".toList⟩
        rfl (by decide) (by decide) (by decide)
    have inText : above = 0 ∨ above = 1 ∨ above = 2 := by
      omega
    rcases inText with rfl | rfl | rfl
    · exact notClosed isClosed
    · obtain rfl := Option.some.inj isOpener
      exact absurd opensBlock (by decide)
    · obtain rfl := Option.some.inj isOpener
      exact absurd opensBlock (by decide)

end Document

end MarkupLint
