import MarkupLint.Proofs.Context

namespace MarkupLint

/-!
# One pass over a document in place of the scans

The context of a line is found by walking up from it, anew for each question.
A single pass from the first line down answers the same questions: it remembers
the last line that is not blank, and a stack of the directives whose columns can
still matter.

A new directive pops every entry that does not start left of it.  The popped
entries are hidden for good: a column they start left of is one the new
directive starts left of as well, and the new directive is nearer.
-/

/-- A directive on the stack, with the index and the indentation of its line. -/
structure OpenBlock where
  index : Nat
  indentation : Nat
  directive : Directive
  deriving Repr, DecidableEq

namespace OpenBlock

/-- The answer that the entry stands for. -/
def enclosing
    (block : OpenBlock) :
    EnclosingDirective where
  index := block.index
  directive := block.directive

/-- The entry of a line, if the line opens a directive. -/
def ofLine?
    (entry : Line × Nat) :
    Option OpenBlock :=
  (Directive.ofLine? entry.1).map fun directive =>
    { index := entry.2
      indentation := entry.1.indentation
      directive := directive }

end OpenBlock

/-- A stack of directives, topmost first; each one starts right of all below it. -/
structure BlockStack where
  blocks : List OpenBlock
  nested :
    blocks.Pairwise fun upper lower =>
      lower.indentation < upper.indentation
  deriving Repr

namespace BlockStack

/-- The stack before the first line. -/
def empty : BlockStack where
  blocks := []
  nested := .nil

/-- Pop entries as long as the topmost one does not start left of the column. -/
def popTo
    (stack : BlockStack)
    (column : Nat) :
    BlockStack where
  blocks :=
    stack.blocks.dropWhile fun block =>
      decide (column ≤ block.indentation)
  nested :=
    stack.nested.sublist (List.dropWhile_sublist _)

/--
Popping stops at the first entry left of the column, and since deeper entries
lie on top of shallower ones, exactly the entries left of the column remain.
-/
theorem popTo_blocks_eq_filter
    (stack : BlockStack)
    (column : Nat) :
    (stack.popTo column).blocks =
      stack.blocks.filter fun block =>
        decide (block.indentation < column) := by
  obtain ⟨blocks, nested⟩ := stack
  simp only [popTo]
  induction blocks with
  | nil =>
      rfl
  | cons top lower inductionHypothesis =>
      obtain ⟨deepest, lowerNested⟩ := List.pairwise_cons.mp nested
      by_cases left : top.indentation < column
      · have allLeft :
            ∀ block ∈ lower,
              decide (block.indentation < column) = true := by
          intro block member
          exact decide_eq_true (Nat.lt_trans (deepest block member) left)
        simp [left, List.filter_eq_self.mpr allLeft]
      · have popped : column ≤ top.indentation :=
          Nat.not_lt.mp left
        simp [left, popped, inductionHypothesis lowerNested]

/-- Pop every entry that does not start left of the block, then push the block. -/
def push
    (stack : BlockStack)
    (block : OpenBlock) :
    BlockStack where
  blocks :=
    block :: (stack.popTo block.indentation).blocks
  nested := by
    apply List.pairwise_cons.mpr
    refine ⟨?_, (stack.popTo block.indentation).nested⟩
    intro lower member
    rw [popTo_blocks_eq_filter] at member
    exact of_decide_eq_true (List.mem_filter.mp member).2

/-- The topmost entry that starts left of the column. -/
def topmostLeftOf?
    (stack : BlockStack)
    (column : Nat) :
    Option OpenBlock :=
  stack.blocks.find? fun block =>
    decide (block.indentation < column)

@[simp] theorem topmostLeftOf?_empty
    (column : Nat) :
    empty.topmostLeftOf? column = none := by
  rfl

/--
After a push, the new entry answers every column it starts left of, and the
answers to all other columns are what they were: no popped entry is missed.
-/
theorem topmostLeftOf?_push
    (stack : BlockStack)
    (block : OpenBlock)
    (column : Nat) :
    (stack.push block).topmostLeftOf? column =
      if block.indentation < column then
        some block
      else
        stack.topmostLeftOf? column := by
  by_cases left : block.indentation < column
  · simp [topmostLeftOf?, push, left]
  · have stillThere :
        ∀ lower : OpenBlock,
          (decide (lower.indentation < block.indentation) &&
              decide (lower.indentation < column)) =
            decide (lower.indentation < column) := by
      intro lower
      by_cases lowerLeft : lower.indentation < column
      · have lowerNested : lower.indentation < block.indentation := by
          omega
        simp [lowerLeft, lowerNested]
      · simp [lowerLeft]
    simp [topmostLeftOf?, push, left, popTo_blocks_eq_filter, stillThere]

end BlockStack

/-- What a pass over the lines above an index remembers. -/
structure ForwardPass where
  lastNonBlank : Option Nat
  stack : BlockStack
  deriving Repr

namespace ForwardPass

/-- Nothing is remembered before the first line. -/
def start : ForwardPass where
  lastNonBlank := none
  stack := .empty

/-- Take in one more line; the stack changes only when the line opens a directive. -/
def step
    (pass : ForwardPass)
    (entry : Line × Nat) :
    ForwardPass where
  lastNonBlank :=
    if entry.1.isBlank then
      pass.lastNonBlank
    else
      some entry.2
  stack :=
    match OpenBlock.ofLine? entry with
    | none => pass.stack
    | some block => pass.stack.push block

/-- A line answers for the columns right of it; otherwise the older answer stays. -/
theorem step_topmostLeftOf?
    (pass : ForwardPass)
    (entry : Line × Nat)
    (column : Nat) :
    ((pass.step entry).stack.topmostLeftOf? column).map OpenBlock.enclosing =
      (Document.opening? column entry).or
        ((pass.stack.topmostLeftOf? column).map OpenBlock.enclosing) := by
  rw [Document.opening?_eq]
  cases parsed : Directive.ofLine? entry.1 with
  | none =>
      simp [step, OpenBlock.ofLine?, parsed]
  | some directive =>
      by_cases left : entry.1.indentation < column
      · simp [step, OpenBlock.ofLine?, parsed, left, OpenBlock.enclosing,
          BlockStack.topmostLeftOf?_push]
      · simp [step, OpenBlock.ofLine?, parsed, left,
          BlockStack.topmostLeftOf?_push]

end ForwardPass

namespace Document

/-- The pass over the lines above an index; past the end, over all lines. -/
def forwardPass
    (document : Document)
    (index : Nat) :
    ForwardPass :=
  (document.lines.take index).zipIdx.foldl ForwardPass.step .start

@[simp] theorem forwardPass_zero
    (document : Document) :
    document.forwardPass 0 = .start := by
  simp [forwardPass]

theorem forwardPass_eq_foldr
    (document : Document)
    (index : Nat) :
    document.forwardPass index =
      (document.linesBefore index).foldr
        (fun entry pass => pass.step entry) .start := by
  simp [forwardPass, linesBefore, List.foldr_reverse]

/-- One index further down, the pass has taken in one more line. -/
theorem forwardPass_succ_of_some
    {document : Document}
    {index : Nat}
    {line : Line}
    (isLine : document.get? index = some line) :
    document.forwardPass (index + 1) =
      (document.forwardPass index).step (line, index) := by
  simp [forwardPass_eq_foldr, linesBefore_succ_of_some isLine]

theorem forwardPass_succ_of_none
    {document : Document}
    {index : Nat}
    (pastEnd : document.get? index = none) :
    document.forwardPass (index + 1) = document.forwardPass index := by
  simp [forwardPass_eq_foldr, linesBefore_succ_of_none pastEnd]

/-- The stack answers the scan for an enclosing directive at every column. -/
theorem enclosingDirective?_eq_topmostLeftOf?
    (document : Document)
    (index column : Nat) :
    document.enclosingDirective? index column =
      ((document.forwardPass index).stack.topmostLeftOf? column).map
        OpenBlock.enclosing := by
  induction index with
  | zero =>
      simp [enclosingDirective?, ForwardPass.start]
  | succ index inductionHypothesis =>
      cases atIndex : document.get? index with
      | none =>
          rw [forwardPass_succ_of_none atIndex, enclosingDirective?_succ_of_none atIndex,
            inductionHypothesis]
      | some line =>
          rw [forwardPass_succ_of_some atIndex, ForwardPass.step_topmostLeftOf?,
            ← inductionHypothesis, enclosingDirective?_succ_of_some atIndex]

/-- The recorded index is that of the nearest line above that is not blank. -/
theorem previousNonBlank?_eq_lastNonBlank
    (document : Document)
    (index : Nat) :
    (document.previousNonBlank? index).map Prod.snd =
      (document.forwardPass index).lastNonBlank := by
  induction index with
  | zero =>
      simp [previousNonBlank?, ForwardPass.start]
  | succ index inductionHypothesis =>
      cases atIndex : document.get? index with
      | none =>
          rw [forwardPass_succ_of_none atIndex, ← inductionHypothesis]
          simp only [previousNonBlank?, linesBefore_succ_of_none atIndex]
      | some line =>
          rw [forwardPass_succ_of_some atIndex]
          cases blank : line.isBlank with
          | true =>
              simpa [previousNonBlank?, linesBefore_succ_of_some atIndex,
                ForwardPass.step, blank] using inductionHypothesis
          | false =>
              simp [previousNonBlank?, linesBefore_succ_of_some atIndex,
                ForwardPass.step, blank]

/-- A title stands directly above when the recorded line is a title. -/
theorem isDirectlyAfterHeadline_iff_lastNonBlank
    (document : Document)
    (index : Nat) :
    document.isDirectlyAfterHeadline index = true ↔
      ∃ above line,
        (document.forwardPass index).lastNonBlank = some above ∧
          document.get? above = some line ∧
          line.isHeadline = true := by
  rw [← previousNonBlank?_eq_lastNonBlank, isDirectlyAfterHeadline]
  cases scanned : document.previousNonBlank? index with
  | none =>
      simp
  | some found =>
      obtain ⟨line, above⟩ := found
      have isLine : document.get? above = some line :=
        (previousNonBlank?_eq_some_iff.mp scanned).isLine
      simp [isLine]

/--
One pass from the first line down gives the answers of all scans upwards: the
enclosing directive for any column, the nearest line with text, and whether that
line is a title.
-/
theorem forwardPass_answers_scans
    (document : Document)
    (index column : Nat) :
    document.enclosingDirective? index column =
        ((document.forwardPass index).stack.topmostLeftOf? column).map
          OpenBlock.enclosing ∧
      (document.previousNonBlank? index).map Prod.snd =
        (document.forwardPass index).lastNonBlank ∧
      (document.isDirectlyAfterHeadline index = true ↔
        ∃ above line,
          (document.forwardPass index).lastNonBlank = some above ∧
            document.get? above = some line ∧
            line.isHeadline = true) :=
  ⟨document.enclosingDirective?_eq_topmostLeftOf? index column,
    document.previousNonBlank?_eq_lastNonBlank index,
    document.isDirectlyAfterHeadline_iff_lastNonBlank index⟩

end Document

end MarkupLint
