import MarkupLint.CodeBlock
import MarkupLint.Proofs.Directive.Grammar
import MarkupLint.Proofs.Text.Search

namespace MarkupLint

/-!
# Code blocks and their languages

A language is matched by two kinds of lines only: by the shorthand, and by a code
block that is written with an argument.  The argument is read without white space
around it, so a tag is compared with all of it, strictly as the same text and loosely
as a part of it.  How the two ways of matching agree follows from the order of the
texts by inclusion, and a strict match admits a single form of line: a code block
whose argument is the tag of the language.
-/

/-- A kind is found under its own name and under no other. -/
theorem DirectiveKind.ofName?_eq_some_iff
    {name : List Char}
    {kind : DirectiveKind} :
    ofName? name = some kind ↔ name = kind.name.toList := by
  constructor
  · intro found
    have same := List.find?_some found
    exact (beq_iff_eq.mp same).symm
  · rintro rfl
    cases kind <;>
      rfl

namespace Language

/-- A tag is a possible argument of a directive. -/
theorem tag_isArgument
    (language : Language) :
    language.tag.toList ≠ [] ∧
      Stops isWhiteSpace language.tag.toList ∧
      '\n' ∉ language.tag.toList := by
  have starts :
      ∃ first rest,
        language.tag.toList = first :: rest ∧ isWhiteSpace first = false := by
    cases language <;>
      exact ⟨_, _, rfl, by decide⟩
  obtain ⟨first, rest, shape, visible⟩ := starts
  refine ⟨by simp [shape], ?_, ?_⟩
  · rw [shape, stops_cons]
    exact visible
  · cases language <;>
      decide

/-- A language is found under its own tag and under no other. -/
theorem ofTag?_eq_some_iff
    {tag : List Char}
    {language : Language} :
    ofTag? tag = some language ↔ tag = language.tag.toList := by
  constructor
  · intro found
    have same := List.find?_some found
    exact (beq_iff_eq.mp same).symm
  · rintro rfl
    cases language <;>
      rfl

/-- No two languages share a tag. -/
theorem eq_of_tag
    {language other : Language}
    (sameTag : language.tag.toList = other.tag.toList) :
    language = other := by
  have found := ofTag?_eq_some_iff.mpr sameTag
  rw [ofTag?_eq_some_iff.mpr rfl] at found
  exact Option.some.inj found

end Language

/-- The content of a code block with the given argument. -/
def IsCodeBlockText
    (argument text : List Char) : Prop :=
  ∃ (gap : Gap) (substitution : Option Substitution) (argumentGap : Gap),
    text =
      ['.', '.'] ++
        (gap.text ++
          (Substitution.written substitution ++
            (("code-block".toList ++ [':', ':']) ++
              (argumentGap.text ++ argument))))

/-- The name of a code block is a directive name. -/
def codeBlockName : DirectiveName where
  text := "code-block".toList
  starts := ⟨'c', "ode-block".toList, rfl, by decide⟩
  inside character member :=
    isNameCharacter_iff.mp (List.all_eq_true.mp rfl character member)

/-- The argument at the end of a line has no white space around it. -/
theorem NamedForm.trim_argument
    {form : NamedForm}
    {line : Line}
    {argument : DirectiveArgument}
    (shape : form.text = line.content)
    (isArgument : form.argument = some argument) :
    trim argument.text = argument.text := by
  have endsVisible := line.content_endsVisible
  rw [← shape, NamedForm.text, isArgument, DirectiveArgument.written] at endsVisible
  simp only [← List.append_assoc] at endsVisible
  exact trim_eq_self argument.startsVisible endsVisible.reverse_of_append

/-- The argument that is read from a line has no white space around it. -/
theorem Directive.trim_argument
    {line : Line}
    {name argument : List Char}
    (parsed : ofLine? line = some (.named name (some argument))) :
    trim argument = argument := by
  obtain ⟨form, shape, -, sameArgument⟩ := ofLine?_eq_named_iff.mp parsed
  obtain ⟨words, isArgument, rfl⟩ := Option.map_eq_some_iff.mp sameArgument
  exact NamedForm.trim_argument shape isArgument

namespace Line

/-- The line is a code block that is written out with an argument. -/
def IsTagged
    (line : Line)
    (argument : List Char) : Prop :=
  Directive.ofLine? line = some (.named DirectiveKind.codeBlock.name.toList (some argument))

/-- A line whose directive has a kind opens this kind and no other. -/
theorem opens_iff_of_kind?
    {line : Line}
    {directive : Directive}
    {known : DirectiveKind}
    (parsed : Directive.ofLine? line = some directive)
    (isKnown : directive.kind? = some known)
    (kind : DirectiveKind) :
    line.opens kind = true ↔ kind = known := by
  rw [opens, parsed, Option.bind_some, isKnown, beq_iff_eq, Option.some.injEq]
  exact eq_comm

/-- The shorthand matches every language loosely and none strictly. -/
theorem opensCodeBlock_of_shorthand
    {line : Line}
    (parsed : Directive.ofLine? line = some .literalShorthand)
    (language : Language)
    (strict : Bool) :
    line.opensCodeBlock language strict = !strict := by
  rw [opensCodeBlock, parsed]

/-- A written code block is matched through its argument. -/
theorem opensCodeBlock_of_isTagged
    {line : Line}
    {argument : List Char}
    (tagged : line.IsTagged argument)
    (language : Language)
    (strict : Bool) :
    line.opensCodeBlock language strict = language.matchesTag strict argument := by
  have isCodeBlock :
      DirectiveKind.ofName? DirectiveKind.codeBlock.name.toList = some .codeBlock :=
    DirectiveKind.ofName?_eq_some_iff.mpr rfl
  rw [opensCodeBlock, tagged]
  simp only [isCodeBlock, beq_self_eq_true, Bool.true_and]

/-- A loose match of a written code block finds the tag in the argument. -/
theorem opensCodeBlock_loose_iff_of_isTagged
    {line : Line}
    {argument : List Char}
    (tagged : line.IsTagged argument)
    (language : Language) :
    line.opensCodeBlock language false = true ↔ language.tag.toList <:+: argument := by
  rw [opensCodeBlock_of_isTagged tagged, Language.matchesTag, Directive.trim_argument tagged]
  exact occursIn_iff_isInfix

/-- A strict match of a written code block finds the tag alone. -/
theorem opensCodeBlock_strict_iff_of_isTagged
    {line : Line}
    {argument : List Char}
    (tagged : line.IsTagged argument)
    (language : Language) :
    line.opensCodeBlock language true = true ↔ language.tag.toList = argument := by
  rw [opensCodeBlock_of_isTagged tagged, Language.matchesTag, Directive.trim_argument tagged,
    if_pos rfl, beq_iff_eq]
  exact eq_comm

/-- No other lines match a language, and the shorthand does so loosely only. -/
theorem shorthand_or_isTagged_of_opensCodeBlock
    {line : Line}
    {language : Language}
    {strict : Bool}
    (opened : line.opensCodeBlock language strict = true) :
    Directive.ofLine? line = some .literalShorthand ∧ strict = false ∨
      ∃ argument, line.IsTagged argument := by
  unfold opensCodeBlock at opened
  split at opened
  · cases opened
  · rename_i parsed
    exact .inl ⟨parsed, by simpa using opened⟩
  · rename_i name argument parsed
    rw [Bool.and_eq_true, beq_iff_eq, DirectiveKind.ofName?_eq_some_iff] at opened
    obtain ⟨rfl, matched⟩ := opened
    cases argument with
    | none =>
        cases matched
    | some written =>
        exact .inr ⟨written, parsed⟩

/-- A strict match comes from a written code block. -/
theorem isTagged_of_opensCodeBlock_strict
    {line : Line}
    {language : Language}
    (opened : line.opensCodeBlock language true = true) :
    line.IsTagged language.tag.toList := by
  rcases shorthand_or_isTagged_of_opensCodeBlock opened with ⟨-, notStrict⟩ | ⟨argument, tagged⟩
  · cases notStrict
  · obtain rfl := (opensCodeBlock_strict_iff_of_isTagged tagged language).mp opened
    exact tagged

/-- A code block is written out with an argument if its content has the form of one. -/
theorem isTagged_iff_isCodeBlockText
    {line : Line}
    {argument : List Char}
    (nonEmpty : argument ≠ [])
    (startsVisible : Stops isWhiteSpace argument)
    (singleRow : '\n' ∉ argument) :
    line.IsTagged argument ↔ IsCodeBlockText argument line.content := by
  rw [IsTagged, Directive.ofLine?_eq_named_iff]
  constructor
  · rintro ⟨form, shape, isCodeBlock, sameArgument⟩
    obtain ⟨words, written, rfl⟩ := Option.map_eq_some_iff.mp sameArgument
    rw [NamedForm.text, isCodeBlock, written] at shape
    exact ⟨form.gap, form.substitution, words.gap, shape.symm⟩
  · rintro ⟨gap, substitution, argumentGap, shape⟩
    let words : DirectiveArgument :=
      ⟨argumentGap, argument, nonEmpty, startsVisible, singleRow⟩
    exact ⟨⟨gap, substitution, codeBlockName, some words⟩, shape.symm, rfl, rfl⟩

/-- A line matches a language strictly when its content is a code block tagged with it. -/
theorem opensCodeBlock_strict_iff
    {line : Line}
    {language : Language} :
    line.opensCodeBlock language true = true ↔
      IsCodeBlockText language.tag.toList line.content := by
  obtain ⟨nonEmpty, startsVisible, singleRow⟩ := language.tag_isArgument
  rw [← isTagged_iff_isCodeBlockText nonEmpty startsVisible singleRow]
  constructor
  · exact isTagged_of_opensCodeBlock_strict
  · intro tagged
    exact (opensCodeBlock_strict_iff_of_isTagged tagged language).mpr rfl

/-- A line that matches a language is a code block and nothing else. -/
theorem opens_iff_of_opensCodeBlock
    {line : Line}
    {language : Language}
    {strict : Bool}
    (opened : line.opensCodeBlock language strict = true)
    (kind : DirectiveKind) :
    line.opens kind = true ↔ kind = .codeBlock := by
  rcases shorthand_or_isTagged_of_opensCodeBlock opened with ⟨parsed, -⟩ | ⟨argument, tagged⟩
  · exact opens_iff_of_kind? parsed rfl kind
  · exact opens_iff_of_kind? tagged (DirectiveKind.ofName?_eq_some_iff.mpr rfl) kind

/-- With a language each one is matched loosely whose tag is a part of its tag. -/
theorem opensCodeBlock_loose_of_isInfix
    {line : Line}
    {language part : Language}
    (isPart : part.tag.toList <:+: language.tag.toList)
    (opened : line.opensCodeBlock language false = true) :
    line.opensCodeBlock part false = true := by
  rcases shorthand_or_isTagged_of_opensCodeBlock opened with ⟨parsed, -⟩ | ⟨argument, tagged⟩
  · exact opensCodeBlock_of_shorthand parsed part false
  · have inArgument := (opensCodeBlock_loose_iff_of_isTagged tagged language).mp opened
    exact (opensCodeBlock_loose_iff_of_isTagged tagged part).mpr (isPart.trans inArgument)

/--
Strict and loose matches of a line agree with each other.  At most one language is
matched strictly, and it is matched loosely as well.  Only code blocks are matched,
and of them the shorthand and those with an argument.  A loose match is passed on to
the languages whose tags are parts of the tag.  The shorthand matches every language
loosely and none strictly; otherwise the argument contains the tag or is the tag.
-/
theorem language_matches_coherent
    (line : Line) :
    (∀ language other,
      line.opensCodeBlock language true = true →
      line.opensCodeBlock other true = true →
      language = other) ∧
    (∀ language,
      line.opensCodeBlock language true = true →
      line.opensCodeBlock language false = true) ∧
    (∀ language strict,
      line.opensCodeBlock language strict = true →
      (∀ kind, line.opens kind = true ↔ kind = .codeBlock) ∧
        (Directive.ofLine? line = some .literalShorthand ∨
          ∃ argument, line.IsTagged argument)) ∧
    (∀ language part : Language,
      part.tag.toList <:+: language.tag.toList →
      line.opensCodeBlock language false = true →
      line.opensCodeBlock part false = true) ∧
    (Directive.ofLine? line = some .literalShorthand →
      ∀ language,
        line.opensCodeBlock language false = true ∧
          line.opensCodeBlock language true = false) ∧
    (∀ argument,
      line.IsTagged argument →
      ∀ language,
        (line.opensCodeBlock language false = true ↔ language.tag.toList <:+: argument) ∧
          (line.opensCodeBlock language true = true ↔ language.tag.toList = argument)) := by
  refine ⟨?_, ?_, ?_, ?_, ?_, ?_⟩
  · intro language other opened otherOpened
    have tagged := isTagged_of_opensCodeBlock_strict otherOpened
    exact Language.eq_of_tag ((opensCodeBlock_strict_iff_of_isTagged tagged language).mp opened)
  · intro language opened
    have tagged := isTagged_of_opensCodeBlock_strict opened
    exact (opensCodeBlock_loose_iff_of_isTagged tagged language).mpr (List.infix_refl _)
  · intro language strict opened
    refine ⟨opens_iff_of_opensCodeBlock opened, ?_⟩
    exact (shorthand_or_isTagged_of_opensCodeBlock opened).imp_left And.left
  · intro language part
    exact opensCodeBlock_loose_of_isInfix
  · intro parsed language
    exact ⟨opensCodeBlock_of_shorthand parsed language false,
      opensCodeBlock_of_shorthand parsed language true⟩
  · intro argument tagged language
    exact ⟨opensCodeBlock_loose_iff_of_isTagged tagged language,
      opensCodeBlock_strict_iff_of_isTagged tagged language⟩

/-- A compound tag is matched strictly as a whole, and loosely by the languages it is made of. -/
theorem language_matches_coherent_at_compound_tag :
    let line : Line := ⟨"  .. code-block:: html+php ".toList⟩
    line.opensCodeBlock .htmlPhp true = true ∧
      line.opensCodeBlock .php true = false ∧
      line.opensCodeBlock .php false = true ∧
      line.opensCodeBlock .html false = true ∧
      line.opensCodeBlock .htmlTwig false = false ∧
      line.opens .configurationBlock = false := by
  intro line
  obtain ⟨unique, loosely, kinds, passedOn, -, byArgument⟩ := language_matches_coherent line
  have tagged : line.IsTagged "html+php".toList := by
    rfl
  have strictly : line.opensCodeBlock .htmlPhp true = true :=
    (byArgument _ tagged .htmlPhp).2.mpr rfl
  refine ⟨strictly, ?_, ?_, ?_, ?_, ?_⟩
  · rw [← Bool.not_eq_true]
    intro opened
    cases unique _ _ opened strictly
  · exact passedOn .htmlPhp .php ⟨"html+".toList, [], rfl⟩ (loosely _ strictly)
  · exact passedOn .htmlPhp .html ⟨[], "+php".toList, rfl⟩ (loosely _ strictly)
  · rw [← Bool.not_eq_true, (byArgument _ tagged .htmlTwig).1, ← occursIn_iff_isInfix]
    decide
  · rw [← Bool.not_eq_true, (kinds _ _ strictly).1]
    decide

end Line

end MarkupLint
