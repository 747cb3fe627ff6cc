import MarkupLint.Proofs.LineClass.Structure

namespace MarkupLint

/-!
# Explicit markup

Two dots, a gap and a body are explicit markup.  Four classes share this start:
footnotes, link definitions, directives and comments.

Behind a single space the four classes leave nothing out, since a comment is what
is none of the others.  Directives alone may stand behind any gap.  A body behind a
wider gap is therefore recognised only if it is a directive, and otherwise belongs
to no class at all.
-/

/-- Explicit markup taken apart. -/
structure MarkupForm where
  gap : Gap
  body : List Char
  nonEmpty : body ≠ []
  startsVisible : Stops isWhiteSpace body

/-- The text of an explicit markup. -/
def MarkupForm.text
    (form : MarkupForm) :
    List Char :=
  ['.', '.'] ++ (form.gap.text ++ form.body)

/-- Whether one of the four classes of explicit markup holds the line. -/
def Line.isRecognisedMarkup
    (line : Line) :
    Bool :=
  line.isFootnote || line.isLinkDefinition || line.isDirective || line.isComment

/-! ## The gap of a line -/

namespace Line

/-- Every line that starts with two dots and a space is explicit markup. -/
theorem exists_markupForm
    {line : Line}
    (starts : ".. ".toList <+: line.content) :
    ∃ form : MarkupForm, form.text = line.content := by
  obtain ⟨rest, shape⟩ := starts
  have skipped : afterWhiteSpace? (' ' :: rest) = some (trimStart rest) := by
    rw [afterWhiteSpace?, if_pos (by decide)]
  obtain ⟨gap, behindDots, startsVisible⟩ := afterWhiteSpace?_eq_some_iff.mp skipped
  have content : ['.', '.'] ++ (gap.text ++ trimStart rest) = line.content := by
    rw [← behindDots, ← shape]
    rfl
  have endsVisible := line.content_endsVisible
  rw [← content] at endsVisible
  have nonEmpty := gap.ne_nil_of_endsVisible endsVisible.reverse_of_append
  exact ⟨⟨gap, trimStart rest, nonEmpty, startsVisible⟩, content⟩

/-- A character that can be seen right behind the space leaves the gap no more than the space. -/
theorem gap_eq_space_of_content
    {line : Line}
    {form : MarkupForm}
    (shape : form.text = line.content)
    {first : Char}
    {rest : List Char}
    (content : line.content = ".. ".toList ++ first :: rest)
    (visible : isWhiteSpace first = false) :
    form.gap.text = [' '] := by
  have behindDots : form.gap.text ++ form.body = [' '] ++ first :: rest :=
    List.append_cancel_left (shape.trans content)
  exact (longestRun_unique behindDots form.gap.white
    (List.forall_mem_singleton.mpr (by decide)) form.startsVisible
    ((stops_cons _ _ _).mpr visible)).1

theorem gap_eq_space_of_marked
    {line : Line}
    {form : MarkupForm}
    (shape : form.text = line.content)
    (marked : line.isFootnote = true ∨ line.isLinkDefinition = true) :
    form.gap.text = [' '] := by
  rcases marked with isFootnote | isLink
  · obtain ⟨rest, content⟩ := content_of_isFootnote isFootnote
    exact gap_eq_space_of_content shape content (by decide)
  · obtain ⟨rest, content⟩ := content_of_isLinkDefinition isLink
    exact gap_eq_space_of_content shape content (by decide)

/-- Behind a single space, a line of none of the other classes is a comment. -/
theorem isComment_iff_of_markupForm
    {line : Line}
    {form : MarkupForm}
    (shape : form.text = line.content) :
    line.isComment = true ↔
      form.gap.text = [' '] ∧
        line.isFootnote = false ∧
        line.isLinkDefinition = false ∧
        line.isDirective = false := by
  rw [isComment]
  simp only [Bool.and_eq_true, Bool.not_eq_true', and_assoc]
  apply and_congr_left
  intro _
  constructor
  · intro starts
    split at starts
    · rename_i first rest cut
      exact gap_eq_space_of_content shape (afterStart?_eq_some_iff.mp cut) (by simpa using starts)
    · cases starts
  · intro isSpace
    obtain ⟨first, rest, body⟩ := List.exists_cons_of_ne_nil form.nonEmpty
    have visible := form.startsVisible
    rw [body, stops_cons] at visible
    have content : line.content = ".. ".toList ++ first :: rest := by
      rw [← shape, MarkupForm.text, isSpace, body]
      rfl
    rw [afterStart?_eq_some_iff.mpr content]
    simp [visible]

theorem isDirective_iff
    {line : Line} :
    line.isDirective = true ↔
      (∃ form : NamedForm, form.text = line.content) ∨ [':', ':'] <:+ line.content := by
  cases isNamed : line.opensNamed with
  | true =>
      have formed := opensNamed_iff.mp isNamed
      exact ⟨fun _ => .inl formed, fun _ => isDirective_of_opensNamed isNamed⟩
  | false =>
      have formless : ¬ ∃ form : NamedForm, form.text = line.content := by
        rw [← opensNamed_iff, isNamed]
        exact Bool.false_ne_true
      rw [isDirective_iff_of_unnamed isNamed, or_iff_right formless]

/--
A line that starts with two dots and a space is a gap and a body behind the dots.
It belongs to one of the four classes exactly when the gap is a single space or the
line opens a directive, and it is a comment exactly when the gap is a single space
and none of the other classes holds it.
-/
theorem explicit_markup_recognised_iff
    {line : Line}
    (starts : ".. ".toList <+: line.content) :
    ∃ form : MarkupForm,
      form.text = line.content ∧
        (line.isRecognisedMarkup = true ↔
          form.gap.text = [' '] ∨
            (∃ directive : NamedForm, directive.text = line.content) ∨
            [':', ':'] <:+ line.content) ∧
        (line.isComment = true ↔
          form.gap.text = [' '] ∧
            line.isFootnote = false ∧
            line.isLinkDefinition = false ∧
            line.isDirective = false) := by
  obtain ⟨form, shape⟩ := exists_markupForm starts
  have isCommentIff := isComment_iff_of_markupForm shape
  refine ⟨form, shape, ?_, isCommentIff⟩
  rw [← isDirective_iff, isRecognisedMarkup]
  simp only [Bool.or_eq_true, or_assoc]
  constructor
  · rintro (isFootnote | isLink | opens | isComment)
    · exact .inl (gap_eq_space_of_marked shape (.inl isFootnote))
    · exact .inl (gap_eq_space_of_marked shape (.inr isLink))
    · exact .inr opens
    · exact .inl (isCommentIff.mp isComment).1
  · rintro (isSpace | opens)
    · by_cases marked :
          line.isFootnote = true ∨ line.isLinkDefinition = true ∨ line.isDirective = true
      · rcases marked with isFootnote | isLink | opens
        · exact .inl isFootnote
        · exact .inr (.inl isLink)
        · exact .inr (.inr (.inl opens))
      · simp only [not_or, Bool.not_eq_true] at marked
        exact .inr (.inr (.inr (isCommentIff.mpr ⟨isSpace, marked⟩)))
    · exact .inr (.inr (.inl opens))

/-- A directive is recognised behind a gap of two spaces. -/
theorem explicit_markup_recognised_iff_at_wide_gap :
    ".. ".toList <+: (ofString "..  see below::").content ∧
      (ofString "..  see below::").isRecognisedMarkup = true := by
  have starts : ".. ".toList <+: (ofString "..  see below::").content := by
    decide
  obtain ⟨form, -, recognised, -⟩ := explicit_markup_recognised_iff starts
  exact ⟨starts, recognised.mpr (.inr (.inr ⟨"..  see below".toList, by decide⟩))⟩

/-- Explicit markup is not always recognised: a second space hides a comment. -/
theorem explicit_markup_left_unrecognised :
    ¬ ∀ line : Line,
      ".. ".toList <+: line.content → line.isRecognisedMarkup = true := by
  intro recognised
  have atWideGap := recognised (ofString "..  a comment") (by decide)
  revert atWideGap
  decide

end Line

end MarkupLint
