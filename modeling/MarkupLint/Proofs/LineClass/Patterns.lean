import MarkupLint.Proofs.Directive.Grammar
import MarkupLint.Proofs.LineClass

namespace MarkupLint

/-!
# Footnotes, options, annotations and references

The remaining patterns of lines, each as the way in which a text is put together:

```text
.. [12] text          a footnote
:name: value          an option of a directive
Line 16 - 18          an annotation of line numbers
`label`_              a reference, anywhere in a line
```

Digits, names and white space are runs that end by themselves, since what follows
them does not belong to their class.  The predicates read these runs from left to
right and never go back.

A reference begins and ends visibly, so that a line refers to a link exactly when
its content does.
-/

/-- A non-empty run of characters of a class. -/
structure Run (belongs : Char → Bool) where
  text : List Char
  nonEmpty : text ≠ []
  inside : ∀ character ∈ text, belongs character = true

/-- Skipping a run cuts it off where it ends. -/
theorem Run.afterRun?_eq_some_iff
    {belongs : Char → Bool}
    {text rest : List Char} :
    afterRun? belongs text = some rest ↔
      ∃ run : Run belongs,
        text = run.text ++ rest ∧ Stops belongs rest := by
  rw [MarkupLint.afterRun?_eq_some_iff]
  constructor
  · rintro ⟨run, shape, nonEmpty, inside, stops⟩
    exact ⟨⟨run, nonEmpty, inside⟩, shape, stops⟩
  · rintro ⟨run, shape, stops⟩
    exact ⟨run.text, shape, run.nonEmpty, run.inside, stops⟩

/-! ## Digits are visible -/

theorem isDecimalDigit_eq_false_of_isWhiteSpace
    {character : Char}
    (white : isWhiteSpace character = true) :
    isDecimalDigit character = false :=
  CodePointRanges.contains_eq_false_of_apart (by decide +kernel) white

theorem isWhiteSpace_eq_false_of_isDecimalDigit
    {character : Char}
    (isDigit : isDecimalDigit character = true) :
    isWhiteSpace character = false := by
  rw [← Bool.not_eq_true]
  intro white
  rw [isDecimalDigit_eq_false_of_isWhiteSpace white] at isDigit
  cases isDigit

/-- White space ends where a number starts. -/
theorem Run.number_startsVisible
    (number : Run isDecimalDigit) :
    Stops isWhiteSpace number.text := by
  obtain ⟨first, rest, shape⟩ := List.exists_cons_of_ne_nil number.nonEmpty
  rw [shape, stops_cons]
  apply isWhiteSpace_eq_false_of_isDecimalDigit
  apply number.inside
  simp [shape]

theorem isSingleRow_iff
    {text : List Char} :
    isSingleRow text = true ↔ '\n' ∉ text := by
  simp [isSingleRow]

namespace Line

/-! ## Footnotes -/

theorem isFootnoteRest_iff
    {text : List Char} :
    isFootnoteRest text = true ↔
      text = [] ∨
        ∃ blank row,
          text = blank :: row ∧ isWhiteSpace blank = true ∧ '\n' ∉ row := by
  cases text with
  | nil =>
      simp [isFootnoteRest]
  | cons first rest =>
      rw [isFootnoteRest, Bool.and_eq_true, isSingleRow_iff]
      constructor
      · intro isRest
        exact .inr ⟨first, rest, rfl, isRest⟩
      · rintro (impossible | ⟨blank, row, shape, isRest⟩)
        · cases impossible
        · cases shape
          exact isRest

theorem isFootnote_iff
    {line : Line} :
    line.isFootnote = true ↔
      ∃ (number : Run isDecimalDigit) (rest : List Char),
        line.content = ".. [".toList ++ (number.text ++ ']' :: rest) ∧
          (rest = [] ∨
            ∃ blank row,
              rest = blank :: row ∧ isWhiteSpace blank = true ∧ '\n' ∉ row) := by
  constructor
  · intro isFootnote
    unfold Line.isFootnote at isFootnote
    split at isFootnote
    · cases isFootnote
    · rename_i mark startCut
      split at isFootnote
      · rename_i rest numberCut
        obtain ⟨number, rfl, -⟩ := Run.afterRun?_eq_some_iff.mp numberCut
        exact ⟨number, rest, afterStart?_eq_some_iff.mp startCut,
          isFootnoteRest_iff.mp isFootnote⟩
      · cases isFootnote
  · rintro ⟨number, rest, shape, isRest⟩
    have startCut := afterStart?_eq_some_iff.mpr shape
    have numberCut : afterRun? isDecimalDigit (number.text ++ ']' :: rest) = some (']' :: rest) :=
      Run.afterRun?_eq_some_iff.mpr ⟨number, rfl, (stops_cons _ _ _).mpr (by decide)⟩
    simp only [isFootnote, startCut, numberCut]
    exact isFootnoteRest_iff.mpr isRest

/-! ## Options -/

/-- The white space may go on into the value; what is left of it still holds no line feed. -/
theorem isOptionValue_iff
    {text : List Char} :
    isOptionValue text = true ↔
      text = [] ∨
        ∃ (gap : Gap) (value : List Char),
          text = gap.text ++ value ∧ '\n' ∉ value := by
  constructor
  · intro isValue
    unfold isOptionValue at isValue
    split at isValue
    · exact .inl rfl
    · split at isValue
      · cases isValue
      · rename_i value skipped
        obtain ⟨gap, shape, -⟩ := afterWhiteSpace?_eq_some_iff.mp skipped
        exact .inr ⟨gap, value, shape, isSingleRow_iff.mp isValue⟩
  · rintro (rfl | ⟨gap, value, rfl, singleRow⟩)
    · rfl
    · obtain ⟨leading, split, leadingWhite, startsVisible⟩ :=
        trimStart_eq_iff.mp (rfl : trimStart value = _)
      have wholeWhite : ∀ character ∈ gap.text ++ leading, isWhiteSpace character = true := by
        intro character member
        rcases List.mem_append.mp member with inGap | inLeading
        · exact gap.white character inGap
        · exact leadingWhite character inLeading
      have skipped : afterWhiteSpace? (gap.text ++ value) = some (trimStart value) := by
        refine afterWhiteSpace?_eq_some_iff.mpr
          ⟨⟨gap.text ++ leading, by simp [gap.nonEmpty], wholeWhite⟩, ?_, startsVisible⟩
        rw [List.append_assoc, ← split]
      have restSingleRow : isSingleRow (trimStart value) = true :=
        isSingleRow_iff.mpr fun member => singleRow (List.dropWhile_subset isWhiteSpace member)
      unfold isOptionValue
      split
      · rfl
      · rw [skipped]
        exact restSingleRow

theorem isOption_iff
    {line : Line} :
    line.isOption = true ↔
      ∃ (name : Run isOptionCharacter) (rest : List Char),
        line.content = ':' :: (name.text ++ ':' :: rest) ∧
          (rest = [] ∨
            ∃ (gap : Gap) (value : List Char),
              rest = gap.text ++ value ∧ '\n' ∉ value) := by
  constructor
  · intro isOption
    unfold Line.isOption at isOption
    split at isOption
    · rename_i behind content
      split at isOption
      · rename_i rest nameCut
        obtain ⟨name, rfl, -⟩ := Run.afterRun?_eq_some_iff.mp nameCut
        exact ⟨name, rest, content, isOptionValue_iff.mp isOption⟩
      · cases isOption
    · cases isOption
  · rintro ⟨name, rest, content, isValue⟩
    have nameCut : afterRun? isOptionCharacter (name.text ++ ':' :: rest) = some (':' :: rest) :=
      Run.afterRun?_eq_some_iff.mpr ⟨name, rfl, (stops_cons _ _ _).mpr (by decide +kernel)⟩
    simp only [isOption, content, nameCut]
    exact isOptionValue_iff.mpr isValue

/-! ## Annotations of line numbers -/

theorem isRangeEnd_iff
    {text : List Char} :
    isRangeEnd text = true ↔
      text = [] ∨
        ∃ (before after : List Char) (number : Run isDecimalDigit),
          text = before ++ '-' :: (after ++ number.text) ∧
            (∀ character ∈ before, isWhiteSpace character = true) ∧
            (∀ character ∈ after, isWhiteSpace character = true) := by
  constructor
  · intro isEnd
    unfold isRangeEnd at isEnd
    split at isEnd
    · exact .inl rfl
    · split at isEnd
      · rename_i rest behindBefore
        obtain ⟨number, behindAfter, -⟩ := Run.afterRun?_eq_some_iff.mp (beq_iff_eq.mp isEnd)
        rw [List.append_nil] at behindAfter
        obtain ⟨before, shape, beforeWhite, -⟩ := trimStart_eq_iff.mp behindBefore
        obtain ⟨after, rfl, afterWhite, -⟩ := trimStart_eq_iff.mp behindAfter
        exact .inr ⟨before, after, number, shape, beforeWhite, afterWhite⟩
      · cases isEnd
  · rintro (rfl | ⟨before, after, number, rfl, beforeWhite, afterWhite⟩)
    · rfl
    · have behindBefore :
          trimStart (before ++ '-' :: (after ++ number.text)) = '-' :: (after ++ number.text) :=
        trimStart_eq_iff.mpr ⟨before, rfl, beforeWhite, (stops_cons _ _ _).mpr (by decide)⟩
      have behindAfter : trimStart (after ++ number.text) = number.text :=
        trimStart_eq_iff.mpr ⟨after, rfl, afterWhite, number.number_startsVisible⟩
      have numberCut : afterRun? isDecimalDigit number.text = some [] :=
        Run.afterRun?_eq_some_iff.mpr ⟨number, by simp, stops_nil _⟩
      unfold isRangeEnd
      split
      · rfl
      · simp [behindBefore, behindAfter, numberCut]

/-- A number ends where a range goes on, with white space or with the dash. -/
theorem stops_isDecimalDigit_range
    {before : List Char}
    (beforeWhite : ∀ character ∈ before, isWhiteSpace character = true)
    (rest : List Char) :
    Stops isDecimalDigit (before ++ '-' :: rest) := by
  cases before with
  | nil =>
      exact (stops_cons _ _ _).mpr (by decide)
  | cons first more =>
      rw [List.cons_append, stops_cons]
      exact isDecimalDigit_eq_false_of_isWhiteSpace (beforeWhite first (by simp))

theorem isLineNumberAnnotation_iff
    {line : Line} :
    line.isLineNumberAnnotation = true ↔
      ∃ first : Run isDecimalDigit,
        line.content = "Line ".toList ++ first.text ∨
          ∃ (before after : List Char) (last : Run isDecimalDigit),
            line.content =
                "Line ".toList ++ (first.text ++ (before ++ '-' :: (after ++ last.text))) ∧
              (∀ character ∈ before, isWhiteSpace character = true) ∧
              (∀ character ∈ after, isWhiteSpace character = true) := by
  constructor
  · intro annotates
    unfold isLineNumberAnnotation at annotates
    split at annotates
    · cases annotates
    · rename_i rest cut
      obtain ⟨behindWord, startCut, numberCut⟩ := Option.bind_eq_some_iff.mp cut
      obtain ⟨first, rfl, -⟩ := Run.afterRun?_eq_some_iff.mp numberCut
      have content := afterStart?_eq_some_iff.mp startCut
      refine ⟨first, ?_⟩
      rcases isRangeEnd_iff.mp annotates with rfl | ⟨before, after, last, rfl, white⟩
      · rw [List.append_nil] at content
        exact .inl content
      · exact .inr ⟨before, after, last, content, white⟩
  · rintro ⟨first, content | ⟨before, after, last, content, beforeWhite, afterWhite⟩⟩
    · have startCut := afterStart?_eq_some_iff.mpr content
      have numberCut : afterRun? isDecimalDigit first.text = some [] :=
        Run.afterRun?_eq_some_iff.mpr ⟨first, by simp, stops_nil _⟩
      unfold isLineNumberAnnotation
      simp only [startCut, Option.bind_some, numberCut]
      rfl
    · have startCut := afterStart?_eq_some_iff.mpr content
      have numberCut :=
        Run.afterRun?_eq_some_iff.mpr
          ⟨first, rfl, stops_isDecimalDigit_range beforeWhite (after ++ last.text)⟩
      unfold isLineNumberAnnotation
      simp only [startCut, Option.bind_some, numberCut]
      exact isRangeEnd_iff.mpr (.inr ⟨before, after, last, rfl, beforeWhite, afterWhite⟩)

/-! ## References -/

/-- A reference: a label in backquotes with an underscore behind it. -/
def IsReference
    (piece : List Char) : Prop :=
  ∃ label,
    label ≠ [] ∧ '\x60' ∉ label ∧ piece = '\x60' :: (label ++ ['\x60', '_'])

/-- A reference starts behind a backquote exactly when one stands there. -/
theorem isReferenceBody_iff
    {text : List Char} :
    isReferenceBody text = true ↔
      ∃ piece, IsReference piece ∧ piece <+: '\x60' :: text := by
  constructor
  · intro isBody
    unfold isReferenceBody at isBody
    split at isBody
    · rename_i behind cut
      obtain ⟨label, rfl, -⟩ := Run.afterRun?_eq_some_iff.mp cut
      have quoteFree := forall_bne_iff_not_mem.mp label.inside
      refine ⟨_, ⟨label.text, label.nonEmpty, quoteFree, rfl⟩, behind, ?_⟩
      simp
    · cases isBody
  · rintro ⟨-, ⟨label, nonEmpty, quoteFree, rfl⟩, behind, shape⟩
    have text_eq : text = label ++ '\x60' :: '_' :: behind := by
      simpa using (List.cons.inj shape).2.symm
    have inside := forall_bne_iff_not_mem.mpr quoteFree
    have cut : afterRun? (· != '\x60') text = some ('\x60' :: '_' :: behind) :=
      Run.afterRun?_eq_some_iff.mpr ⟨⟨label, nonEmpty, inside⟩, text_eq, by simp⟩
    simp only [isReferenceBody, cut]

/-- The search from left to right finds a reference wherever one stands. -/
theorem hasReference_iff
    {text : List Char} :
    hasReference text = true ↔
      ∃ piece, IsReference piece ∧ piece <:+: text := by
  induction text with
  | nil =>
      constructor
      · intro impossible
        cases impossible
      · rintro ⟨-, ⟨label, -, -, rfl⟩, isInfix⟩
        cases List.infix_nil.mp isInfix
  | cons first rest inductionHypothesis =>
      simp only [hasReference, Bool.or_eq_true, Bool.and_eq_true, beq_iff_eq,
        inductionHypothesis, List.infix_cons_iff]
      constructor
      · rintro (⟨rfl, isBody⟩ | ⟨piece, isReference, later⟩)
        · obtain ⟨piece, isReference, here⟩ := isReferenceBody_iff.mp isBody
          exact ⟨piece, isReference, .inl here⟩
        · exact ⟨piece, isReference, .inr later⟩
      · rintro ⟨piece, isReference, here | later⟩
        · have ⟨label, _, _, shape⟩ := isReference
          subst shape
          obtain ⟨rfl, -⟩ := List.cons_prefix_cons.mp here
          exact .inl ⟨rfl, isReferenceBody_iff.mpr ⟨_, isReference, here⟩⟩
        · exact .inr ⟨piece, isReference, later⟩

/-- A reference stands in the content of a line exactly when it stands in the line. -/
theorem IsReference.isInfix_content_iff
    {piece : List Char}
    (isReference : IsReference piece)
    (line : Line) :
    piece <:+: line.content ↔ piece <:+: line.text := by
  obtain ⟨label, -, -, rfl⟩ := isReference
  apply isInfix_trim_iff
  · exact (stops_cons _ _ _).mpr (by decide)
  · simp only [List.reverse_cons, List.reverse_append, List.cons_append, List.nil_append,
      List.reverse_nil, stops_cons]
    decide

/--
Footnotes, options, annotations of line numbers and references are read by their
grammars, and the white space around a line has no part in its references.
-/
theorem line_patterns_iff_grammars
    (line : Line) :
    (line.isFootnote = true ↔
      ∃ (number : Run isDecimalDigit) (rest : List Char),
        line.content = ".. [".toList ++ (number.text ++ ']' :: rest) ∧
          (rest = [] ∨
            ∃ blank row,
              rest = blank :: row ∧ isWhiteSpace blank = true ∧ '\n' ∉ row)) ∧
      (line.isOption = true ↔
        ∃ (name : Run (fun character => isWordCharacter character || character == '-'))
          (rest : List Char),
          line.content = ':' :: (name.text ++ ':' :: rest) ∧
            (rest = [] ∨
              ∃ (gap : Gap) (value : List Char),
                rest = gap.text ++ value ∧ '\n' ∉ value)) ∧
      (line.isLineNumberAnnotation = true ↔
        ∃ first : Run isDecimalDigit,
          line.content = "Line ".toList ++ first.text ∨
            ∃ (before after : List Char) (last : Run isDecimalDigit),
              line.content =
                  "Line ".toList ++ (first.text ++ (before ++ '-' :: (after ++ last.text))) ∧
                (∀ character ∈ before, isWhiteSpace character = true) ∧
                (∀ character ∈ after, isWhiteSpace character = true)) ∧
      (line.isLinkUsage = true ↔
        ∃ piece, IsReference piece ∧ piece <:+: line.text) ∧
      ((∃ piece, IsReference piece ∧ piece <:+: line.text) ↔
        ∃ piece, IsReference piece ∧ piece <:+: line.content) := by
  refine ⟨isFootnote_iff, isOption_iff, isLineNumberAnnotation_iff, hasReference_iff, ?_⟩
  constructor
  · rintro ⟨piece, isReference, inText⟩
    exact ⟨piece, isReference, (isReference.isInfix_content_iff line).mpr inText⟩
  · rintro ⟨piece, isReference, inContent⟩
    exact ⟨piece, isReference, (isReference.isInfix_content_iff line).mp inContent⟩

end Line

end MarkupLint
