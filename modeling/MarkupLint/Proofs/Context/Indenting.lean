import MarkupLint.Proofs.Rule.Verdict
import MarkupLint.Proofs.Text.Run

namespace MarkupLint

/-!
# Indenting a whole document

Putting the same white space in front of every line moves all columns by its width
and changes nothing else: what a line says, and which lines stand above it, stay as
they were.  So the scans for text and titles find what they found, and the scan for a
block finds at a moved column what it found at the old one.

One thing does change.  No line stands at the left margin any more, and a line that
did stand there has nothing left of it.  The rule against explicit PHP blocks asks
such a line for an enclosing block and not for a title, and there is none.
-/

/-- The line with a margin put in front of it. -/
def Line.indentedBy
    (margin : List Char)
    (line : Line) :
    Line :=
  ⟨margin ++ line.text⟩

/-- The document with a margin put in front of every line. -/
def Document.indentedBy
    (margin : List Char)
    (document : Document) :
    Document :=
  ⟨document.lines.map (Line.indentedBy margin)⟩

theorem Document.get?_indentedBy
    (margin : List Char)
    (document : Document)
    (index : Nat) :
    (document.indentedBy margin).get? index =
      (document.get? index).map (Line.indentedBy margin) := by
  rw [get?, get?, indentedBy, List.getElem?_map]

/-- The walk up meets the same lines at the same indices. -/
theorem Document.linesBefore_indentedBy
    (margin : List Char)
    (document : Document)
    (index : Nat) :
    (document.indentedBy margin).linesBefore index =
      (document.linesBefore index).map (Prod.map (Line.indentedBy margin) id) := by
  rw [linesBefore, linesBefore, indentedBy, ← List.map_take, List.zipIdx_map, List.map_reverse]

section

variable
  {margin : List Char}
  (white : ∀ character ∈ margin, isWhiteSpace character = true)

include white

namespace Line

theorem content_indentedBy
    (line : Line) :
    (line.indentedBy margin).content = line.content :=
  trim_white_append white line.text

/-- Every line moves by the width of the margin, blank ones included. -/
theorem indentation_indentedBy
    (line : Line) :
    (line.indentedBy margin).indentation = line.indentation + margin.length := by
  rw [indentation, indentation, indentedBy, List.takeWhile_append_of_pos white,
    List.length_append, Nat.add_comm]

end Line

namespace Document

/-- A line opens at a moved column what it opened at the old one. -/
theorem opening?_indentedBy
    (column : Nat)
    (entry : Line × Nat) :
    opening? (column + margin.length) (entry.map (Line.indentedBy margin) id) =
      opening? column entry := by
  have sameContent := entry.1.content_indentedBy white
  simp only [opening?_eq, Prod.map_fst, Prod.map_snd, id_eq,
    Line.ofLine?_of_content_eq sameContent, Line.indentation_indentedBy white,
    Nat.add_lt_add_iff_right]

/-- No line starts left of a column within the margin. -/
theorem opening?_within_margin
    {column : Nat}
    (within : column ≤ margin.length)
    (entry : Line × Nat) :
    opening? column (entry.map (Line.indentedBy margin) id) = none := by
  rw [opening?_eq, Prod.map_fst, Line.indentation_indentedBy white, if_neg (by omega)]

theorem enclosingDirective?_indentedBy
    (document : Document)
    (index column : Nat) :
    (document.indentedBy margin).enclosingDirective? index (column + margin.length) =
      document.enclosingDirective? index column := by
  rw [enclosingDirective?, enclosingDirective?, linesBefore_indentedBy, List.findSome?_map]
  congr 1
  funext entry
  exact opening?_indentedBy white column entry

theorem enclosingDirective?_within_margin
    (document : Document)
    (index : Nat)
    {column : Nat}
    (within : column ≤ margin.length) :
    (document.indentedBy margin).enclosingDirective? index column = none := by
  rw [enclosingDirective?, linesBefore_indentedBy, List.findSome?_map, List.findSome?_eq_none_iff]
  intro entry _
  exact opening?_within_margin white within entry

/-- The nearest line with text is the same one, moved by the margin. -/
theorem previousNonBlank?_indentedBy
    (document : Document)
    (index : Nat) :
    (document.indentedBy margin).previousNonBlank? index =
      (document.previousNonBlank? index).map (Prod.map (Line.indentedBy margin) id) := by
  rw [previousNonBlank?, previousNonBlank?, linesBefore_indentedBy, List.find?_map]
  congr 2
  funext entry
  have sameContent := entry.1.content_indentedBy white
  simp only [Function.comp_apply, Prod.map_fst, Line.isBlank_of_content_eq sameContent]

theorem isDirectlyAfterHeadline_indentedBy
    (document : Document)
    (index : Nat) :
    (document.indentedBy margin).isDirectlyAfterHeadline index =
      document.isDirectlyAfterHeadline index := by
  rw [isDirectlyAfterHeadline, isDirectlyAfterHeadline, previousNonBlank?_indentedBy white]
  cases document.previousNonBlank? index with
  | none =>
      rfl
  | some found =>
      exact Line.isHeadline_of_content_eq (found.1.content_indentedBy white)

theorem isEnclosedBy_indentedBy
    (document : Document)
    (index column : Nat)
    (kind : DirectiveKind) :
    (document.indentedBy margin).isEnclosedBy index (column + margin.length) kind =
      document.isEnclosedBy index column kind := by
  rw [isEnclosedBy, isEnclosedBy, enclosingDirective?_indentedBy white]

end Document

namespace ExplicitPhpBlock

/-- A line that was indented before is asked for the same block at a moved column. -/
theorem isAllowedAt_indentedBy
    (document : Document)
    (index : Nat)
    {line : Line}
    (indented : 0 < line.indentation) :
    isAllowedAt (document.indentedBy margin) index (line.indentedBy margin) =
      isAllowedAt document index line := by
  rw [isAllowedAt, isAllowedAt, Line.indentation_indentedBy white, if_neg (by omega),
    if_neg (by omega), Document.isEnclosedBy_indentedBy white]

/-- A line that stood at the left margin has nothing left of it that could enclose it. -/
theorem isAllowedAt_indentedBy_of_unindented
    (document : Document)
    (index : Nat)
    {line : Line}
    (notEmpty : margin ≠ [])
    (unindented : line.indentation = 0) :
    isAllowedAt (document.indentedBy margin) index (line.indentedBy margin) = false := by
  have isWide : margin.length ≠ 0 :=
    fun isZero => notEmpty (List.length_eq_zero_iff.mp isZero)
  rw [isAllowedAt, Line.indentation_indentedBy white, unindented, Nat.zero_add, if_neg isWide,
    Document.isEnclosedBy,
    Document.enclosingDirective?_within_margin white document index (Nat.le_refl _)]
  rfl

/-- What is reported of a moved line depends on its new place only. -/
theorem check_indentedBy
    (document : Document)
    (index : Nat)
    {line : Line}
    (isLine : document.get? index = some line) :
    check (document.indentedBy margin) index =
      if line.opensCodeBlock .php true &&
          !isAllowedAt (document.indentedBy margin) index (line.indentedBy margin) then
        some message
      else
        none := by
  have isMoved :
      (document.indentedBy margin).get? index = some (line.indentedBy margin) := by
    rw [Document.get?_indentedBy, isLine]
    rfl
  rw [check_of_get?_eq_some isMoved,
    Line.opensCodeBlock_of_content_eq (line.content_indentedBy white)]

end ExplicitPhpBlock

namespace Document

/--
Indenting a whole document shifts all answers by the width of the margin.  At a moved
column the scan for a block finds what it found before, within the margin it finds
nothing, and the scans for text and for titles find what they found.  The rule against
explicit PHP blocks judges a line that was indented as before; one that was not, it
reports whenever it is an explicit PHP block.
-/
theorem indenting_shifts_answers
    (notEmpty : margin ≠ [])
    (document : Document) :
    (∀ index column,
      (document.indentedBy margin).enclosingDirective? index (column + margin.length) =
        document.enclosingDirective? index column) ∧
    (∀ index column,
      column ≤ margin.length →
      (document.indentedBy margin).enclosingDirective? index column = none) ∧
    (∀ index,
      ((document.indentedBy margin).previousNonBlank? index).map Prod.snd =
        (document.previousNonBlank? index).map Prod.snd) ∧
    (∀ index,
      (document.indentedBy margin).isDirectlyAfterHeadline index =
        document.isDirectlyAfterHeadline index) ∧
    (∀ index line,
      document.get? index = some line →
      0 < line.indentation →
      ExplicitPhpBlock.check (document.indentedBy margin) index =
        ExplicitPhpBlock.check document index) ∧
    ∀ index line,
      document.get? index = some line →
      line.indentation = 0 →
      ExplicitPhpBlock.check (document.indentedBy margin) index =
        if line.opensCodeBlock .php true then some ExplicitPhpBlock.message else none := by
  refine ⟨document.enclosingDirective?_indentedBy white, ?_, ?_,
    document.isDirectlyAfterHeadline_indentedBy white, ?_, ?_⟩
  · intro index column within
    exact document.enclosingDirective?_within_margin white index within
  · intro index
    rw [previousNonBlank?_indentedBy white, Option.map_map]
    rfl
  · intro index line isLine indented
    rw [ExplicitPhpBlock.check_indentedBy white document index isLine,
      ExplicitPhpBlock.isAllowedAt_indentedBy white document index indented,
      ExplicitPhpBlock.check_of_get?_eq_some isLine]
  · intro index line isLine unindented
    rw [ExplicitPhpBlock.check_indentedBy white document index isLine,
      ExplicitPhpBlock.isAllowedAt_indentedBy_of_unindented white document index notEmpty
        unindented, Bool.not_false, Bool.and_true]

end Document

end

namespace Document

/-- A PHP block below a title, and another one in a configuration block. -/
def titledPage : Document :=
  .ofLines
    ["Title".toList,
      "=====".toList,
      "".toList,
      ".. code-block:: php".toList,
      ".. configuration-block::".toList,
      "    .. code-block:: php".toList]

/-- Under a tab and an ideographic space the title no longer excuses the block below it. -/
theorem indenting_shifts_answers_in_page :
    (titledPage.indentedBy ['\t', '\u3000']).enclosingDirective? 5 6 =
        titledPage.enclosingDirective? 5 4 ∧
      (titledPage.indentedBy ['\t', '\u3000']).enclosingDirective? 5 2 = none ∧
      (titledPage.indentedBy ['\t', '\u3000']).isDirectlyAfterHeadline 3 = true ∧
      ExplicitPhpBlock.check (titledPage.indentedBy ['\t', '\u3000']) 5 = none ∧
      ExplicitPhpBlock.check titledPage 3 = none ∧
      ExplicitPhpBlock.check (titledPage.indentedBy ['\t', '\u3000']) 3 =
        some ExplicitPhpBlock.message := by
  have white :
      ∀ character ∈ ['\t', '\u3000'], isWhiteSpace character = true :=
    List.all_eq_true.mp (by decide)
  obtain ⟨moves, vanishes, -, keepsTitles, keepsVerdict, reports⟩ :=
    indenting_shifts_answers white (by decide) titledPage
  exact
    ⟨moves 5 4,
      vanishes 5 2 (by decide),
      (keepsTitles 3).trans (by decide),
      (keepsVerdict 5 ⟨"    .. code-block:: php".toList⟩ rfl (by decide)).trans (by decide),
      by decide,
      (reports 3 ⟨".. code-block:: php".toList⟩ rfl (by decide)).trans (by decide)⟩

end Document

end MarkupLint
