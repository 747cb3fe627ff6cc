import MarkupLint.Proofs.Directive.Grammar
import MarkupLint.Proofs.LineClass
import MarkupLint.Proofs.Text.Search

namespace MarkupLint

/-!
# Structural classes of lines

Nine classes say what a line is in the structure of a document.  Each has its own
predicate, and no line belongs to two of them.

The classes are not compared in pairs.  `StructuralClass.candidate` reads the only
possible class off the first characters of a line, and every class turns out to
be the candidate of its lines.

The shorthand `::` is no class of its own, since it may end a line of several
classes.  It never ends a line whose characters exclude the colon.
-/

/-- What a line is in the structure of a document. -/
inductive StructuralClass where
  | blank
  | footnote
  | comment
  | linkDefinition
  | namedDirective
  | listItem
  | option
  | lineNumberAnnotation
  | border
  deriving Repr, DecidableEq

/-- Whether the line opens a directive that has a name. -/
def Line.opensNamed
    (line : Line) :
    Bool :=
  match Directive.ofLine? line with
  | some (.named _ _) => true
  | _ => false

namespace StructuralClass

/-- Whether a line belongs to the class; titles and table borders are one class. -/
def holds : StructuralClass → Line → Bool
  | blank, line => line.isBlank
  | footnote, line => line.isFootnote
  | comment, line => line.isComment
  | linkDefinition, line => line.isLinkDefinition
  | namedDirective, line => line.opensNamed
  | listItem, line => line.isListItem
  | option, line => line.isOption
  | lineNumberAnnotation, line => line.isLineNumberAnnotation
  | border, line => line.isHeadline || line.isTable

/-- The first character that can be seen behind the two dots of an explicit markup. -/
def markupSign?
    (content : List Char) :
    Option Char :=
  (trimStart (content.drop 2)).head?

/-- The only class that a line can belong to. -/
def candidate
    (line : Line) :
    StructuralClass :=
  match line.content with
  | [] => blank
  | first :: rest =>
      if first = ':' then
        option
      else if first = 'L' then
        lineNumberAnnotation
      else if first = '.' ∧ rest.any isWhiteSpace = true then
        if line.isComment = true then
          comment
        else if markupSign? line.content = some '[' then
          footnote
        else if markupSign? line.content = some '_' then
          linkDefinition
        else
          namedDirective
      else if (first = '*' ∨ first = '#') ∧ rest.head? ≠ some first then
        listItem
      else
        border

end StructuralClass

/-! ## How the lines of a class begin -/

theorem Line.content_startsVisible
    (line : Line) :
    Stops isWhiteSpace line.content :=
  stops_trim line.text

namespace Line

theorem content_of_isFootnote
    {line : Line}
    (isFootnote : line.isFootnote = true) :
    ∃ rest, line.content = ['.', '.', ' ', '['] ++ rest := by
  unfold Line.isFootnote at isFootnote
  split at isFootnote
  · cases isFootnote
  · rename_i mark cut
    exact ⟨mark, afterStart?_eq_some_iff.mp cut⟩

theorem content_of_isLinkDefinition
    {line : Line}
    (isLink : line.isLinkDefinition = true) :
    ∃ rest, line.content = ['.', '.', ' ', '_'] ++ rest := by
  unfold isLinkDefinition at isLink
  split at isLink
  · cases isLink
  · rename_i behind cut
    obtain ⟨target, startCut, -⟩ := Option.bind_eq_some_iff.mp cut
    exact ⟨target, afterStart?_eq_some_iff.mp startCut⟩

theorem content_of_isComment
    {line : Line}
    (isComment : line.isComment = true) :
    ∃ rest, line.content = ['.', '.', ' '] ++ rest := by
  simp only [Line.isComment, Bool.and_eq_true] at isComment
  have starts := isComment.1.1.1
  split at starts
  · rename_i first rest cut
    exact ⟨first :: rest, afterStart?_eq_some_iff.mp cut⟩
  · cases starts

theorem isComment_eq_false_of_marked
    {line : Line}
    (marked : line.isFootnote = true ∨ line.isLinkDefinition = true) :
    line.isComment = false := by
  rcases marked with isFootnote | isLink
  · simp [isComment, isFootnote]
  · simp [isComment, isLink]

theorem content_of_isOption
    {line : Line}
    (isOption : line.isOption = true) :
    ∃ rest, line.content = ':' :: rest := by
  unfold Line.isOption at isOption
  split at isOption
  · rename_i rest shape
    exact ⟨rest, shape⟩
  · cases isOption

/-- An item keeps its sign when the white space behind it is trimmed away. -/
theorem content_of_trimStart
    {line : Line}
    {first second : Char}
    {more : List Char}
    (shape : trimStart line.text = first :: second :: more)
    (visible : isWhiteSpace first = false)
    (different : second ≠ first) :
    ∃ rest, line.content = first :: rest ∧ rest.head? ≠ some first := by
  obtain ⟨trailing, split, trailingWhite⟩ := trimStart_eq_trim_append line.text
  change trimStart line.text = line.content ++ trailing at split
  rw [shape] at split
  cases content : line.content with
  | nil =>
      rw [content, List.nil_append] at split
      have white := trailingWhite first (by simp [← split])
      rw [visible] at white
      cases white
  | cons start rest =>
      rw [content, List.cons_append] at split
      obtain ⟨rfl, behind⟩ := List.cons.inj split
      refine ⟨rest, rfl, ?_⟩
      cases rest with
      | nil =>
          simp
      | cons next tail =>
          obtain ⟨rfl, -⟩ := List.cons.inj behind
          simpa using different

theorem content_of_isListItem
    {line : Line}
    (isItem : line.isListItem = true) :
    ∃ first rest,
      line.content = first :: rest ∧
        (first = '*' ∨ first = '#') ∧
        rest.head? ≠ some first := by
  rw [isListItem, Bool.or_eq_true] at isItem
  rcases isItem with bulleted | numbered
  · obtain ⟨more, shape⟩ := List.isPrefixOf_iff_prefix.mp bulleted
    obtain ⟨rest, content, apart⟩ :=
      content_of_trimStart shape.symm (by decide) (by decide)
    exact ⟨'*', rest, content, .inl rfl, apart⟩
  · obtain ⟨more, shape⟩ := List.isPrefixOf_iff_prefix.mp numbered
    obtain ⟨rest, content, apart⟩ :=
      content_of_trimStart shape.symm (by decide) (by decide)
    exact ⟨'#', rest, content, .inr rfl, apart⟩

end Line

/-! ## Lines of few characters -/

/-- Splitting loses nothing but the separators. -/
theorem mem_splitAtEach
    {separator character : Char}
    {text : List Char}
    (member : character ∈ text) :
    character = separator ∨
      ∃ piece ∈ splitAtEach separator text, character ∈ piece := by
  induction text with
  | nil =>
      cases member
  | cons first rest inductionHypothesis =>
      obtain ⟨head, tail, pieces⟩ := exists_splitAtEach_eq_cons separator rest
      rw [pieces] at inductionHypothesis
      by_cases isSeparator : first = separator
      · simp only [splitAtEach, pieces, if_pos isSeparator]
        rcases List.mem_cons.mp member with rfl | inRest
        · exact .inl isSeparator
        · rcases inductionHypothesis inRest with same | ⟨piece, isPiece, inPiece⟩
          · exact .inl same
          · exact .inr ⟨piece, List.mem_cons_of_mem [] isPiece, inPiece⟩
      · simp only [splitAtEach, pieces, if_neg isSeparator]
        rcases List.mem_cons.mp member with rfl | inRest
        · exact .inr ⟨character :: head, by simp, by simp⟩
        · rcases inductionHypothesis inRest with same | ⟨piece, isPiece, inPiece⟩
          · exact .inl same
          · rcases List.mem_cons.mp isPiece with rfl | later
            · exact .inr ⟨first :: piece, by simp, by simp [inPiece]⟩
            · exact .inr ⟨piece, by simp [later], inPiece⟩

/-- The characters that an annotation of line numbers may hold. -/
def isAnnotationCharacter
    (character : Char) :
    Bool :=
  isWhiteSpace character || isDecimalDigit character || "Line-".toList.contains character

namespace Line

/-- Only white space, digits and a dash follow the first number of an annotation. -/
theorem isAnnotationCharacter_of_isRangeEnd
    {text : List Char}
    (isEnd : isRangeEnd text = true) :
    ∀ character ∈ text, isAnnotationCharacter character = true := by
  intro character member
  cases white : isWhiteSpace character with
  | true =>
      simp [isAnnotationCharacter, white]
  | false =>
      unfold isRangeEnd at isEnd
      split at isEnd
      · cases member
      · split at isEnd
        · rename_i rest shape
          obtain ⟨digits, digitsShape, -, inside, -⟩ :=
            afterRun?_eq_some_iff.mp (beq_iff_eq.mp isEnd)
          have inRange := mem_trimStart member white
          rw [shape] at inRange
          rcases List.mem_cons.mp inRange with rfl | inRest
          · decide
          · have isDigit := mem_trimStart inRest white
            rw [digitsShape, List.append_nil] at isDigit
            simp [isAnnotationCharacter, inside character isDigit]
        · cases isEnd

theorem content_of_lineNumbers
    {line : Line}
    (annotates : line.isLineNumberAnnotation = true) :
    (∃ rest, line.content = 'L' :: rest) ∧
      ∀ character ∈ line.content, isAnnotationCharacter character = true := by
  unfold isLineNumberAnnotation at annotates
  split at annotates
  · cases annotates
  · rename_i rangeEnd cut
    obtain ⟨number, startCut, numberCut⟩ := Option.bind_eq_some_iff.mp cut
    obtain ⟨digits, rfl, -, inside, -⟩ := afterRun?_eq_some_iff.mp numberCut
    rw [afterStart?_eq_some_iff.mp startCut]
    refine ⟨⟨_, rfl⟩, ?_⟩
    intro character member
    rcases List.mem_append.mp member with inWord | behindWord
    · exact List.all_eq_true.mp
        (by decide : "Line ".toList.all isAnnotationCharacter = true) character inWord
    · rcases List.mem_append.mp behindWord with inDigits | inEnd
      · simp [isAnnotationCharacter, inside character inDigits]
      · exact isAnnotationCharacter_of_isRangeEnd annotates character inEnd

/-- A border is made of two signs and of the spaces between its columns. -/
theorem content_of_isTable
    {line : Line}
    (isTable : line.isTable = true) :
    (∃ first rest,
      line.content = first :: rest ∧ (first = '=' ∨ first = '-')) ∧
      ∀ character ∈ line.content,
        character = ' ' ∨ character = '=' ∨ character = '-' := by
  have inside :
      ∀ character ∈ line.content,
        character = ' ' ∨ character = '=' ∨ character = '-' := by
    intro character member
    rcases mem_splitAtEach member with same | ⟨piece, isPiece, inPiece⟩
    · exact .inl same
    · have isColumn := List.all_eq_true.mp (line.isTable_eq ▸ isTable) piece isPiece
      simp only [isBorderColumn, isRunOf, Bool.or_eq_true, Bool.and_eq_true,
        List.all_eq_true, beq_iff_eq] at isColumn
      rcases isColumn with ⟨-, allEqual⟩ | ⟨-, allDashes⟩
      · exact .inr (.inl (allEqual character inPiece))
      · exact .inr (.inr (allDashes character inPiece))
  refine ⟨?_, inside⟩
  cases shape : line.content with
  | nil =>
      rw [Line.isTable, shape] at isTable
      cases isTable
  | cons first rest =>
      refine ⟨first, rest, rfl, ?_⟩
      have visible := line.content_startsVisible
      rw [shape, stops_cons] at visible
      rcases inside first (by simp [shape]) with rfl | isSign
      · cases visible
      · exact isSign

theorem opensNamed_iff
    {line : Line} :
    line.opensNamed = true ↔ ∃ form : NamedForm, form.text = line.content := by
  constructor
  · intro isNamed
    unfold opensNamed at isNamed
    split at isNamed
    · rename_i name argument opened
      obtain ⟨form, shape, -⟩ := Directive.ofLine?_eq_named_iff.mp opened
      exact ⟨form, shape⟩
    · cases isNamed
  · rintro ⟨form, shape⟩
    rw [opensNamed, Directive.ofLine?_of_form shape]

theorem isDirective_of_opensNamed
    {line : Line}
    (isNamed : line.opensNamed = true) :
    line.isDirective = true := by
  obtain ⟨form, shape⟩ := opensNamed_iff.mp isNamed
  rw [isDirective, Directive.ofLine?_of_form shape]
  rfl

end Line

/-- Behind the gap of a named directive stands a substitution or a name. -/
theorem NamedForm.text_eq_sign
    (form : NamedForm) :
    ∃ sign rest,
      form.text = ['.', '.'] ++ (form.gap.text ++ sign :: rest) ∧
        isWhiteSpace sign = false ∧
        (sign = '|' ∨ sign.isAlphanum = true) := by
  cases isSubstitution : form.substitution with
  | none =>
      obtain ⟨first, tail, shape, isStart⟩ := form.name.starts
      obtain ⟨aboveSpace, ascii⟩ :=
        printable_of_isNameCharacter (isNameCharacter_iff.mpr (.inl isStart))
      refine ⟨first, tail ++ ([':', ':'] ++ DirectiveArgument.written form.argument), ?_,
        isWhiteSpace_eq_false_of_printable aboveSpace ascii, .inr isStart⟩
      simp [text, isSubstitution, Substitution.written, shape]
  | some substitution =>
      refine ⟨'|',
        substitution.label ++ '|' :: (substitution.gap.text ++
          ((form.name.text ++ [':', ':']) ++ DirectiveArgument.written form.argument)),
        ?_, by decide, .inl rfl⟩
      simp [text, isSubstitution, Substitution.written]

/-! ## The class of a line is its candidate -/

namespace StructuralClass

theorem candidate_of_isBlank
    {line : Line}
    (blank : line.isBlank = true) :
    candidate line = .blank := by
  have noContent : line.content = [] := by
    simpa [Line.isBlank] using blank
  simp [candidate, noContent]

/-- A sign behind two dots and a space decides, unless the line is a comment. -/
theorem candidate_of_sign
    {line : Line}
    {sign : Char}
    {rest : List Char}
    (shape : line.content = ['.', '.', ' ', sign] ++ rest)
    (visible : isWhiteSpace sign = false)
    (noComment : line.isComment = false) :
    candidate line =
      if sign = '[' then
        footnote
      else if sign = '_' then
        linkDefinition
      else
        namedDirective := by
  have white : isWhiteSpace ' ' = true := by
    decide
  simp [candidate, shape, noComment, markupSign?, trimStart, white, visible]

theorem candidate_of_isFootnote
    {line : Line}
    (isFootnote : line.isFootnote = true) :
    candidate line = footnote := by
  obtain ⟨rest, shape⟩ := Line.content_of_isFootnote isFootnote
  have noComment := Line.isComment_eq_false_of_marked (.inl isFootnote)
  rw [candidate_of_sign shape (by decide) noComment]
  rfl

theorem candidate_of_isLinkDefinition
    {line : Line}
    (isLink : line.isLinkDefinition = true) :
    candidate line = linkDefinition := by
  obtain ⟨rest, shape⟩ := Line.content_of_isLinkDefinition isLink
  have noComment := Line.isComment_eq_false_of_marked (.inr isLink)
  rw [candidate_of_sign shape (by decide) noComment]
  rfl

theorem candidate_of_isComment
    {line : Line}
    (isComment : line.isComment = true) :
    candidate line = comment := by
  obtain ⟨rest, shape⟩ := Line.content_of_isComment isComment
  have white : isWhiteSpace ' ' = true := by
    decide
  simp [candidate, shape, isComment, white]

theorem candidate_of_isOption
    {line : Line}
    (isOption : line.isOption = true) :
    candidate line = option := by
  obtain ⟨rest, shape⟩ := Line.content_of_isOption isOption
  simp [candidate, shape]

theorem candidate_of_isListItem
    {line : Line}
    (isItem : line.isListItem = true) :
    candidate line = listItem := by
  obtain ⟨first, rest, shape, isSign, apart⟩ := Line.content_of_isListItem isItem
  rcases isSign with rfl | rfl <;>
    simp [candidate, shape, apart]

theorem candidate_of_isLineNumberAnnotation
    {line : Line}
    (annotates : line.isLineNumberAnnotation = true) :
    candidate line = lineNumberAnnotation := by
  obtain ⟨⟨rest, shape⟩, -⟩ := Line.content_of_lineNumbers annotates
  simp [candidate, shape]

theorem candidate_of_isTable
    {line : Line}
    (isTable : line.isTable = true) :
    candidate line = border := by
  obtain ⟨⟨first, rest, shape, isSign⟩, -⟩ := Line.content_of_isTable isTable
  rcases isSign with rfl | rfl <;>
    simp [candidate, shape]

/-- A title repeats its sign, and so is neither an item nor an explicit markup. -/
theorem candidate_of_isHeadline
    {line : Line}
    (isHeadline : line.isHeadline = true) :
    candidate line = border := by
  obtain ⟨sign, isSign, count, long, shape⟩ := Line.isHeadline_iff.mp isHeadline
  obtain ⟨fewer, rfl⟩ : ∃ fewer, count = fewer + 2 :=
    ⟨count - 2, by omega⟩
  have ordinary :
      Line.adornments.all
        (fun sign => sign != ':' && sign != 'L' && !isWhiteSpace sign) = true := by
    decide
  obtain ⟨⟨noColon, noLetter⟩, visible⟩ :
      (sign ≠ ':' ∧ sign ≠ 'L') ∧ isWhiteSpace sign = false := by
    rw [← Line.adornments_eq] at isSign
    simpa using List.all_eq_true.mp ordinary sign isSign
  rw [List.replicate_succ, List.replicate_succ] at shape
  simp [candidate, shape, noColon, noLetter, visible]

theorem candidate_of_opensNamed
    {line : Line}
    (isNamed : line.opensNamed = true) :
    candidate line = namedDirective := by
  have noComment : line.isComment = false := by
    simp [Line.isComment, Line.isDirective_of_opensNamed isNamed]
  obtain ⟨form, formShape⟩ := Line.opensNamed_iff.mp isNamed
  obtain ⟨sign, rest, shape, visible, isSign⟩ := form.text_eq_sign
  have content : line.content = ['.', '.'] ++ (form.gap.text ++ sign :: rest) :=
    formShape.symm.trans shape
  have behindGap : trimStart (form.gap.text ++ sign :: rest) = sign :: rest :=
    (longestRun_iff.mpr ⟨rfl, form.gap.white, (stops_cons _ _ _).mpr visible⟩).2
  have hasGap : (form.gap.text ++ sign :: rest).any isWhiteSpace = true := by
    obtain ⟨first, tail, gapShape⟩ := List.exists_cons_of_ne_nil form.gap.nonEmpty
    have white := form.gap.white first (by simp [gapShape])
    simp [gapShape, white]
  have noBracket : sign ≠ '[' := by
    rintro rfl
    revert isSign
    decide
  have noUnderscore : sign ≠ '_' := by
    rintro rfl
    revert isSign
    decide
  simp only [candidate, content, markupSign?, List.cons_append, List.nil_append, noComment,
    List.drop_succ_cons, List.drop_zero, behindGap, List.head?_cons, List.any_cons, hasGap]
  simp [noBracket, noUnderscore]

theorem candidate_of_holds
    {structuralClass : StructuralClass}
    {line : Line}
    (belongs : structuralClass.holds line = true) :
    candidate line = structuralClass := by
  cases structuralClass with
  | blank =>
      exact candidate_of_isBlank belongs
  | footnote =>
      exact candidate_of_isFootnote belongs
  | comment =>
      exact candidate_of_isComment belongs
  | linkDefinition =>
      exact candidate_of_isLinkDefinition belongs
  | namedDirective =>
      exact candidate_of_opensNamed belongs
  | listItem =>
      exact candidate_of_isListItem belongs
  | option =>
      exact candidate_of_isOption belongs
  | lineNumberAnnotation =>
      exact candidate_of_isLineNumberAnnotation belongs
  | border =>
      rcases Bool.or_eq_true_iff.mp belongs with isHeadline | isTable
      · exact candidate_of_isHeadline isHeadline
      · exact candidate_of_isTable isTable

end StructuralClass

/-! ## The shorthand and references on lines of a class -/

namespace Line

theorem opensNamed_eq_false_of_candidate
    {line : Line}
    {structuralClass : StructuralClass}
    (isCandidate : StructuralClass.candidate line = structuralClass)
    (another : structuralClass ≠ .namedDirective) :
    line.opensNamed = false := by
  cases isNamed : line.opensNamed with
  | false =>
      rfl
  | true =>
      have named := StructuralClass.candidate_of_opensNamed isNamed
      exact (another (isCandidate.symm.trans named)).elim

theorem opensNamed_eq_false_of_isMember
    {line : Line}
    (isMember :
      line.isFootnote = true ∨ line.isLinkDefinition = true ∨ line.isListItem = true ∨
        line.isOption = true) :
    line.opensNamed = false := by
  rcases isMember with isFootnote | isLink | isItem | isOption
  · exact opensNamed_eq_false_of_candidate
      (StructuralClass.candidate_of_isFootnote isFootnote) (by decide)
  · exact opensNamed_eq_false_of_candidate
      (StructuralClass.candidate_of_isLinkDefinition isLink) (by decide)
  · exact opensNamed_eq_false_of_candidate
      (StructuralClass.candidate_of_isListItem isItem) (by decide)
  · exact opensNamed_eq_false_of_candidate
      (StructuralClass.candidate_of_isOption isOption) (by decide)

/-- Without a name, only the shorthand is left. -/
theorem ofLine?_eq_literalShorthand_of_unnamed
    {line : Line}
    (unnamed : line.opensNamed = false)
    (opens : line.isDirective = true) :
    Directive.ofLine? line = some .literalShorthand := by
  rw [isDirective, Option.isSome_iff_exists] at opens
  obtain ⟨directive, opened⟩ := opens
  cases directive with
  | named name argument =>
      rw [opensNamed, opened] at unnamed
      cases unnamed
  | literalShorthand =>
      exact opened

theorem isDirective_iff_of_unnamed
    {line : Line}
    (unnamed : line.opensNamed = false) :
    line.isDirective = true ↔ [':', ':'] <:+ line.content := by
  have formless : ∀ form : NamedForm, form.text ≠ line.content := by
    intro form shape
    rw [opensNamed_iff.mpr ⟨form, shape⟩] at unnamed
    cases unnamed
  constructor
  · intro opens
    have shorthand := ofLine?_eq_literalShorthand_of_unnamed unnamed opens
    exact (Directive.ofLine?_eq_literalShorthand_iff.mp shorthand).2
  · intro endsInColons
    rw [isDirective, Directive.ofLine?_eq_literalShorthand_iff.mpr ⟨formless, endsInColons⟩]
    rfl

theorem colon_mem_of_isDirective
    {line : Line}
    (opens : line.isDirective = true) :
    ':' ∈ line.content := by
  cases isNamed : line.opensNamed with
  | true =>
      obtain ⟨form, shape⟩ := opensNamed_iff.mp isNamed
      simp [← shape, NamedForm.text]
  | false =>
      exact ((isDirective_iff_of_unnamed isNamed).mp opens).subset (by simp)

theorem mem_of_hasReference
    {text : List Char}
    (refers : hasReference text = true) :
    '\x60' ∈ text ∧ '_' ∈ text := by
  induction text with
  | nil =>
      cases refers
  | cons first rest inductionHypothesis =>
      simp only [hasReference, Bool.or_eq_true, Bool.and_eq_true, beq_iff_eq] at refers
      rcases refers with ⟨rfl, isBody⟩ | later
      · unfold isReferenceBody at isBody
        split at isBody
        · rename_i behind cut
          obtain ⟨label, rfl, -⟩ := afterRun?_eq_some_iff.mp cut
          simp
        · cases isBody
      · obtain ⟨quote, underscore⟩ := inductionHypothesis later
        exact ⟨List.mem_cons_of_mem first quote, List.mem_cons_of_mem first underscore⟩

/-- A reference needs a quote and an underscore, which no white space can give. -/
theorem mem_content_of_isLinkUsage
    {line : Line}
    (refers : line.isLinkUsage = true) :
    '\x60' ∈ line.content ∧ '_' ∈ line.content := by
  obtain ⟨quote, underscore⟩ := mem_of_hasReference refers
  exact ⟨mem_trim quote (by decide), mem_trim underscore (by decide)⟩

/-- The lines that only divide or number text hold no colon, and not both signs of a reference. -/
theorem content_of_decoration
    {line : Line}
    (decorates :
      line.isBlank = true ∨ line.isHeadline = true ∨ line.isTable = true ∨
        line.isLineNumberAnnotation = true) :
    ':' ∉ line.content ∧ ¬ ('\x60' ∈ line.content ∧ '_' ∈ line.content) := by
  rcases decorates with blank | isHeadline | isTable | annotates
  · have noContent : line.content = [] := by
      simpa [isBlank] using blank
    simp [noContent]
  · obtain ⟨sign, isSign, count, -, shape⟩ := isHeadline_iff.mp isHeadline
    have noColon : ':' ∉ "=-~*.^+#\"'_`".toList := by
      decide
    rw [shape]
    constructor
    · intro member
      rw [← List.eq_of_mem_replicate member] at isSign
      exact noColon isSign
    · rintro ⟨quote, underscore⟩
      have same :=
        (List.eq_of_mem_replicate quote).trans (List.eq_of_mem_replicate underscore).symm
      revert same
      decide
  · have inside := (content_of_isTable isTable).2
    exact ⟨fun member => absurd (inside _ member) (by decide),
      fun members => absurd (inside _ members.1) (by decide)⟩
  · have inside := (content_of_lineNumbers annotates).2
    exact ⟨fun member => absurd (inside _ member) (by decide),
      fun members => absurd (inside _ members.1) (by decide)⟩

theorem isDirective_eq_false_of_decoration
    {line : Line}
    (decorates :
      line.isBlank = true ∨ line.isHeadline = true ∨ line.isTable = true ∨
        line.isLineNumberAnnotation = true) :
    line.isDirective = false := by
  rw [← Bool.not_eq_true]
  intro opens
  exact (content_of_decoration decorates).1 (colon_mem_of_isDirective opens)

theorem isDirective_eq_false_of_isComment
    {line : Line}
    (isComment : line.isComment = true) :
    line.isDirective = false := by
  simp only [Line.isComment, Bool.and_eq_true, Bool.not_eq_true'] at isComment
  exact isComment.2

/--
No line belongs to two of the structural classes.  A footnote, a link definition,
a list item and an option open a directive exactly when they end in two colons,
and then it is the shorthand.  Blank lines, comments, titles, table borders and
annotations of line numbers open none, and all of them but comments refer to no
link.
-/
theorem structural_classes_disjoint
    (line : Line) :
    (∀ first second : StructuralClass,
      first.holds line = true →
      second.holds line = true →
      first = second) ∧
      (line.isFootnote = true ∨ line.isLinkDefinition = true ∨ line.isListItem = true ∨
          line.isOption = true →
        (line.isDirective = true ↔ [':', ':'] <:+ line.content) ∧
          (line.isDirective = true →
            Directive.ofLine? line = some .literalShorthand)) ∧
      (line.isBlank = true ∨ line.isComment = true ∨ line.isHeadline = true ∨
          line.isTable = true ∨ line.isLineNumberAnnotation = true →
        line.isDirective = false) ∧
      (line.isBlank = true ∨ line.isHeadline = true ∨ line.isTable = true ∨
          line.isLineNumberAnnotation = true →
        line.isLinkUsage = false) := by
  refine ⟨?_, ?_, ?_, ?_⟩
  · intro first second isFirst isSecond
    exact (StructuralClass.candidate_of_holds isFirst).symm.trans
      (StructuralClass.candidate_of_holds isSecond)
  · intro isMember
    have unnamed := opensNamed_eq_false_of_isMember isMember
    exact ⟨isDirective_iff_of_unnamed unnamed,
      ofLine?_eq_literalShorthand_of_unnamed unnamed⟩
  · rintro (blank | isComment | isHeadline | isTable | annotates)
    · exact isDirective_eq_false_of_decoration (.inl blank)
    · exact isDirective_eq_false_of_isComment isComment
    · exact isDirective_eq_false_of_decoration (.inr (.inl isHeadline))
    · exact isDirective_eq_false_of_decoration (.inr (.inr (.inl isTable)))
    · exact isDirective_eq_false_of_decoration (.inr (.inr (.inr annotates)))
  · intro decorates
    rw [← Bool.not_eq_true]
    intro refers
    exact (content_of_decoration decorates).2 (mem_content_of_isLinkUsage refers)

/-- A footnote that ends in two colons is a footnote only, and opens the shorthand. -/
theorem structural_classes_disjoint_at_footnote :
    (∀ other : StructuralClass,
      other.holds (ofString ".. [1] See below::") = true → other = .footnote) ∧
      (ofString ".. [1] See below::").isFootnote = true ∧
      (ofString ".. [1] See below::").isDirective = true ∧
      Directive.ofLine? (ofString ".. [1] See below::") = some .literalShorthand := by
  have disjoint := structural_classes_disjoint (ofString ".. [1] See below::")
  have isFootnote : (ofString ".. [1] See below::").isFootnote = true := by
    decide
  have opens := (disjoint.2.1 (.inl isFootnote)).1.mpr ⟨".. [1] See below".toList, by decide⟩
  exact ⟨fun other isOther => disjoint.1 other .footnote isOther isFootnote, isFootnote, opens,
    (disjoint.2.1 (.inl isFootnote)).2 opens⟩

/-! ## Explicit markup -/

/-- A footnote is no link definition. -/
theorem isLinkDefinition_eq_false_of_isFootnote
    {line : Line}
    (isFootnote : line.isFootnote = true) :
    line.isLinkDefinition = false := by
  cases isLink : line.isLinkDefinition with
  | false =>
      rfl
  | true =>
      have same :=
        (StructuralClass.candidate_of_isFootnote isFootnote).symm.trans
          (StructuralClass.candidate_of_isLinkDefinition isLink)
      cases same

/--
A footnote, a link definition, a directive and a comment exclude each other at
every line but one kind: a footnote or link definition that ends in two colons is
a directive as well.
-/
theorem explicit_markup_exclusive_iff
    (line : Line) :
    [line.isFootnote, line.isLinkDefinition, line.isDirective, line.isComment].count true ≤ 1 ↔
      ¬ ((line.isFootnote = true ∨ line.isLinkDefinition = true) ∧
        [':', ':'] <:+ line.content) := by
  cases isFootnote : line.isFootnote with
  | true =>
      have noLink := isLinkDefinition_eq_false_of_isFootnote isFootnote
      have noComment := isComment_eq_false_of_marked (.inl isFootnote)
      have opensShorthand :=
        isDirective_iff_of_unnamed (opensNamed_eq_false_of_isMember (.inl isFootnote))
      cases opens : line.isDirective <;>
        simp [noLink, noComment, ← opensShorthand, opens]
  | false =>
      cases isLink : line.isLinkDefinition with
      | true =>
          have noComment := isComment_eq_false_of_marked (.inr isLink)
          have opensShorthand :=
            isDirective_iff_of_unnamed (opensNamed_eq_false_of_isMember (.inr (.inl isLink)))
          cases opens : line.isDirective <;>
            simp [noComment, ← opensShorthand, opens]
      | false =>
          cases isComment : line.isComment with
          | true =>
              simp [isDirective_eq_false_of_isComment isComment]
          | false =>
              cases line.isDirective <;>
                simp

/-- The four constructs are not exclusive: a footnote may end like a directive. -/
theorem explicit_markup_overlaps :
    ¬ ∀ line : Line,
      [line.isFootnote, line.isLinkDefinition, line.isDirective, line.isComment].count true ≤ 1 := by
  intro exclusive
  have atFootnote := exclusive (ofString ".. [1] See below::")
  revert atFootnote
  decide

end Line

end MarkupLint
