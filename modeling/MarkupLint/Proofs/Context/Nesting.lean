import MarkupLint.Proofs.Context

namespace MarkupLint

/-!
# Nesting of directives

The enclosing directive of each line is looked for on its own, from that line and
at that line's column.  The answers fit together all the same.  Going from a line
to the directive around it, and on to the one around that, climbs a tree: each
step leads up and to the left.  The trees do not cross, since a directive between
a line and its parent starts too far right to be the parent, and so it lies below
the parent itself.

An answer for one column also gives the answers for all columns left of it: either
the directive that was found still starts left of the column, or the walk goes on
from there.
-/

namespace Document

/-- The index of the directive that encloses a line at the line's own column. -/
def parent?
    (document : Document)
    (index : Nat) :
    Option Nat :=
  (document.get? index).bind fun line =>
    (document.enclosingDirective? index line.indentation).map EnclosingDirective.index

/-- The index that is reached by going from a line to its parent a number of times. -/
def ancestor?
    (document : Document) :
    (steps index : Nat) →
      Option Nat
  | 0, index => some index
  | steps + 1, index => (document.parent? index).bind (document.ancestor? steps)

/-- The parent is the nearest directive above that starts left of the line. -/
theorem parent?_eq_some_iff
    {document : Document}
    {index above : Nat}
    {line : Line}
    (isLine : document.get? index = some line) :
    document.parent? index = some above ↔
      ∃ opener,
        document.NearestAbove index (OpensLeftOf line.indentation) opener above := by
  rw [parent?, isLine, Option.bind_some, Option.map_eq_some_iff]
  constructor
  · intro scanned
    obtain ⟨found, isFound, isAbove⟩ := scanned
    obtain ⟨opener, nearest, -⟩ := enclosingDirective?_eq_some_iff.mp isFound
    subst isAbove
    exact ⟨opener, nearest⟩
  · intro isNearest
    obtain ⟨opener, nearest⟩ := isNearest
    obtain ⟨directive, parsed⟩ := Option.isSome_iff_exists.mp nearest.holds.2
    exact ⟨⟨above, directive⟩, enclosingDirective?_eq_some_iff.mpr ⟨opener, nearest, parsed⟩, rfl⟩

/-- Only a line of the document has a parent. -/
theorem exists_line_of_parent?
    {document : Document}
    {index above : Nat}
    (isParent : document.parent? index = some above) :
    ∃ line, document.get? index = some line := by
  obtain ⟨line, isLine, -⟩ := Option.bind_eq_some_iff.mp isParent
  exact ⟨line, isLine⟩

/-- Each step to a parent leads to the left, so the column of a line bounds their number. -/
theorem exists_root
    {document : Document}
    {index : Nat}
    {line : Line}
    (isLine : document.get? index = some line) :
    ∃ steps root,
      steps ≤ line.indentation ∧
        document.ancestor? steps index = some root ∧
        document.parent? root = none := by
  induction index using Nat.strongRecOn generalizing line with
  | ind index inductionHypothesis =>
      cases isParent : document.parent? index with
      | none =>
          exact ⟨0, index, Nat.zero_le _, rfl, isParent⟩
      | some above =>
          obtain ⟨opener, nearest⟩ := (parent?_eq_some_iff isLine).mp isParent
          obtain ⟨steps, root, bounded, reached, isRoot⟩ :=
            inductionHypothesis above nearest.isAbove nearest.isLine
          refine
            ⟨steps + 1, root, Nat.lt_of_le_of_lt bounded nearest.holds.indentation_lt, ?_, isRoot⟩
          simpa [ancestor?, isParent] using reached

/--
A directive that was passed over on the way up lies below the directive that was
found.  The induction is on its index: its own parent is the one that was found,
or another directive that was passed over further up.
-/
theorem exists_steps_of_passedOver
    {document : Document}
    {index column above between : Nat}
    {opener line : Line}
    (nearest : document.NearestAbove index (OpensLeftOf column) opener above)
    (below : above < between)
    (before : between < index)
    (isLine : document.get? between = some line)
    (opens : line.isDirective = true) :
    ∃ steps, document.ancestor? steps between = some above := by
  induction between using Nat.strongRecOn generalizing line with
  | ind between inductionHypothesis =>
      have notLeft : column ≤ line.indentation :=
        Nat.not_lt.mp fun left =>
          nearest.nearest between line below before isLine (opensLeftOf_iff.mpr ⟨left, opens⟩)
      have isCandidate : OpensLeftOf line.indentation opener :=
        opensLeftOf_iff.mpr
          ⟨Nat.lt_of_lt_of_le nearest.holds.indentation_lt notLeft, nearest.holds.2⟩
      obtain ⟨parentLine, parent, parentNearest, notAbove⟩ :=
        NearestAbove.exists_of_holds below nearest.isLine isCandidate
      have isParent : document.parent? between = some parent :=
        (parent?_eq_some_iff isLine).mpr ⟨parentLine, parentNearest⟩
      rcases Nat.eq_or_lt_of_le notAbove with same | further
      · subst same
        exact ⟨1, by simp [ancestor?, isParent]⟩
      · obtain ⟨steps, reached⟩ :=
          inductionHypothesis parent parentNearest.isAbove further
            (Nat.lt_trans parentNearest.isAbove before) parentNearest.isLine
            parentNearest.holds.2
        exact ⟨steps + 1, by simp [ancestor?, isParent, reached]⟩

/-- Whether the line at an index starts left of a column. -/
def startsLeftOf
    (document : Document)
    (column index : Nat) :
    Bool :=
  (document.get? index).any fun line =>
    decide (line.indentation < column)

/--
The scan at a column goes on from what the scan at a column further right finds: a
line that the second one passes over is passed over by the first one as well.
-/
theorem enclosingDirective?_of_le
    (document : Document)
    {narrow wide : Nat}
    (notRight : narrow ≤ wide)
    (index : Nat) :
    document.enclosingDirective? index narrow =
      (document.enclosingDirective? index wide).bind fun found =>
        if document.startsLeftOf narrow found.index then
          some found
        else
          document.enclosingDirective? found.index narrow := by
  induction index with
  | zero =>
      simp [enclosingDirective?]
  | succ index inductionHypothesis =>
      cases atIndex : document.get? index with
      | none =>
          rw [enclosingDirective?_succ_of_none atIndex, enclosingDirective?_succ_of_none atIndex]
          exact inductionHypothesis
      | some line =>
          rw [enclosingDirective?_succ_of_some atIndex, enclosingDirective?_succ_of_some atIndex,
            opening?_eq, opening?_eq]
          cases parsed : Directive.ofLine? line with
          | none =>
              simpa using inductionHypothesis
          | some directive =>
              by_cases left : line.indentation < wide
              · by_cases alsoLeft : line.indentation < narrow <;>
                  simp [left, alsoLeft, startsLeftOf, atIndex]
              · have notLeft : ¬ line.indentation < narrow :=
                  fun alsoLeft => left (Nat.lt_of_lt_of_le alsoLeft notRight)
                simpa [left, notLeft] using inductionHypothesis

/--
The parents of the lines of a document form a forest that does not cross itself: a
parent is a directive further up and further left, so at most as many steps as a
line is indented lead to a root; and every directive between a line and its parent
lies below the parent.  Moreover, what encloses an index at one column determines
what encloses it at every column left of it.
-/
theorem parents_form_noncrossing_forest
    (document : Document) :
    (∀ index above line,
      document.get? index = some line →
      document.parent? index = some above →
      ∃ opener,
        document.get? above = some opener ∧
          opener.isDirective = true ∧
          above < index ∧
          opener.indentation < line.indentation) ∧
    (∀ index line,
      document.get? index = some line →
      ∃ steps root,
        steps ≤ line.indentation ∧
          document.ancestor? steps index = some root ∧
          document.parent? root = none) ∧
    (∀ index above between line,
      document.parent? index = some above →
      above < between →
      between < index →
      document.get? between = some line →
      line.isDirective = true →
      ∃ steps, document.ancestor? steps between = some above) ∧
    ∀ index narrow wide,
      narrow ≤ wide →
      document.enclosingDirective? index narrow =
        (document.enclosingDirective? index wide).bind fun found =>
          if document.startsLeftOf narrow found.index then
            some found
          else
            document.enclosingDirective? found.index narrow := by
  refine ⟨?_, fun index line => exists_root, ?_, ?_⟩
  · intro index above line isLine isParent
    obtain ⟨opener, nearest⟩ := (parent?_eq_some_iff isLine).mp isParent
    exact
      ⟨opener, nearest.isLine, nearest.holds.2, nearest.isAbove,
        nearest.holds.indentation_lt⟩
  · intro index above between line isParent below before isLine opens
    obtain ⟨child, isChild⟩ := exists_line_of_parent? isParent
    obtain ⟨opener, nearest⟩ := (parent?_eq_some_iff isChild).mp isParent
    exact exists_steps_of_passedOver nearest below before isLine opens
  · intro index narrow wide notRight
    exact document.enclosingDirective?_of_le notRight index

/-- A block with a directive nested two deep, and one beside it. -/
def nestedPage : Document :=
  .ofLines
    [".. configuration-block::".toList,
      "    .. note::".toList,
      "      .. code-block:: php".toList,
      "    .. code-block:: yaml".toList]

theorem parents_form_noncrossing_forest_in_page :
    nestedPage.parent? 3 = some 0 ∧
      (∃ opener,
        nestedPage.get? 0 = some opener ∧
          opener.isDirective = true ∧
          0 < 3 ∧
          opener.indentation < 4) ∧
      (∃ steps root,
        steps ≤ 4 ∧
          nestedPage.ancestor? steps 3 = some root ∧
          nestedPage.parent? root = none) ∧
      (∃ steps, nestedPage.ancestor? steps 2 = some 0) ∧
      nestedPage.enclosingDirective? 3 5 = nestedPage.enclosingDirective? 2 5 := by
  have isLine : nestedPage.get? 3 = some ⟨"    .. code-block:: yaml".toList⟩ := rfl
  have isParent : nestedPage.parent? 3 = some 0 := rfl
  obtain ⟨leadsLeft, stops, encloses, narrows⟩ :=
    parents_form_noncrossing_forest nestedPage
  exact
    ⟨isParent,
      leadsLeft 3 0 _ isLine isParent,
      stops 3 _ isLine,
      encloses 3 0 2 ⟨"      .. code-block:: php".toList⟩ isParent (by decide) (by decide) rfl rfl,
      narrows 3 5 8 (by decide)⟩

end Document

end MarkupLint
