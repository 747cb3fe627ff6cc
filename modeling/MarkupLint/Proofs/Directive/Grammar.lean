import MarkupLint.Directive
import MarkupLint.Proofs.Text.Run

namespace MarkupLint

/-!
# The grammar of directives

A named directive is written

```text
..  |label|  name::  argument
```

where `|label|` and the argument may be missing and every blank stands for some
white space.  `NamedForm` is such a text taken apart.  Its parts carry the
conditions on their characters, so that a form is well formed by construction.

No text can be taken apart in two ways, and `Directive.ofLine?` finds the form
of a line whenever there is one.
-/

/-- White space that separates two parts. -/
@[ext] structure Gap where
  text : List Char
  nonEmpty : text ≠ []
  white : ∀ character ∈ text, isWhiteSpace character = true

/-- A substitution in front of a directive, with the white space behind it. -/
@[ext] structure Substitution where
  label : List Char
  gap : Gap
  nonEmpty : label ≠ []
  barFree : '|' ∉ label

/-- The name of a directive, in ASCII letters, digits and a few signs. -/
@[ext] structure DirectiveName where
  text : List Char
  starts : ∃ first rest, text = first :: rest ∧ first.isAlphanum = true
  inside :
    ∀ character ∈ text,
      character.isAlphanum = true ∨ character ∈ ['_', ':', '+', '.', '-']

/-- The argument of a directive, with the white space in front of it. -/
@[ext] structure DirectiveArgument where
  gap : Gap
  text : List Char
  nonEmpty : text ≠ []
  startsVisible : Stops isWhiteSpace text
  singleRow : '\n' ∉ text

/-- A named directive taken apart. -/
@[ext] structure NamedForm where
  gap : Gap
  substitution : Option Substitution
  name : DirectiveName
  argument : Option DirectiveArgument

/-- A substitution as it is written; nothing is written for a missing one. -/
def Substitution.written : Option Substitution → List Char
  | none => []
  | some substitution =>
      '|' :: (substitution.label ++ '|' :: substitution.gap.text)

/-- An argument as it is written; nothing is written for a missing one. -/
def DirectiveArgument.written : Option DirectiveArgument → List Char
  | none => []
  | some argument => argument.gap.text ++ argument.text

/-- The text of a named directive. -/
def NamedForm.text
    (form : NamedForm) :
    List Char :=
  ['.', '.'] ++
    (form.gap.text ++
      (Substitution.written form.substitution ++
        ((form.name.text ++ [':', ':']) ++
          DirectiveArgument.written form.argument)))

/-! ## Where the parts end -/

/-- Something stands behind a gap in a text that does not end in white space. -/
theorem Gap.ne_nil_of_endsVisible
    (gap : Gap)
    {body : List Char}
    (endsVisible : Stops isWhiteSpace (gap.text ++ body).reverse) :
    body ≠ [] := by
  rintro rfl
  rw [List.append_nil] at endsVisible
  obtain ⟨last, rest, shape⟩ :=
    List.exists_cons_of_ne_nil (List.reverse_ne_nil_iff.mpr gap.nonEmpty)
  have lastWhite : isWhiteSpace last = true := by
    apply gap.white
    apply List.mem_reverse.mp
    simp [shape]
  rw [shape, stops_cons, lastWhite] at endsVisible
  cases endsVisible

theorem isNameCharacter_iff
    {character : Char} :
    isNameCharacter character = true ↔
      character.isAlphanum = true ∨ character ∈ ['_', ':', '+', '.', '-'] := by
  simp [isNameCharacter, or_assoc]

/-- The characters of a name are printable, and so neither white space nor control characters. -/
theorem printable_of_isNameCharacter
    {character : Char}
    (inName : isNameCharacter character = true) :
    0x20 < character.toNat ∧ character.toNat < 0x7F := by
  rcases isNameCharacter_iff.mp inName with alphanumeric | sign
  · delta Char.isAlphanum Char.isAlpha Char.isUpper Char.isLower Char.isDigit at alphanumeric
    simp only [Bool.or_eq_true, Bool.and_eq_true, decide_eq_true_eq, ge_iff_le,
      UInt32.le_iff_toNat_le] at alphanumeric
    rcases alphanumeric with (upper | lower) | digit
    · obtain ⟨low, high⟩ := upper
      change 65 ≤ character.toNat at low
      change character.toNat ≤ 90 at high
      omega
    · obtain ⟨low, high⟩ := lower
      change 97 ≤ character.toNat at low
      change character.toNat ≤ 122 at high
      omega
    · obtain ⟨low, high⟩ := digit
      change 48 ≤ character.toNat at low
      change character.toNat ≤ 57 at high
      omega
  · simp only [List.mem_cons, List.not_mem_nil, or_false] at sign
    rcases sign with rfl | rfl | rfl | rfl | rfl <;>
      decide

theorem isNameCharacter_eq_false_of_isWhiteSpace
    {character : Char}
    (white : isWhiteSpace character = true) :
    isNameCharacter character = false := by
  cases inName : isNameCharacter character with
  | false =>
      rfl
  | true =>
      obtain ⟨aboveSpace, ascii⟩ := printable_of_isNameCharacter inName
      rw [isWhiteSpace_eq_false_of_printable aboveSpace ascii] at white
      cases white

/-- A text that starts like a name starts neither with white space nor with a bar. -/
theorem DirectiveName.stops
    (name : DirectiveName)
    (rest : List Char) :
    Stops isWhiteSpace (name.text ++ rest) ∧
      Stops (· == '|') (name.text ++ rest) := by
  obtain ⟨first, tail, shape, isStart⟩ := name.starts
  have inName : isNameCharacter first = true := by
    apply isNameCharacter_iff.mpr
    apply name.inside
    simp [shape]
  obtain ⟨aboveSpace, ascii⟩ := printable_of_isNameCharacter inName
  have notBar : (first == '|') = false := by
    apply beq_false_of_ne
    rintro rfl
    revert isStart
    decide
  rw [shape, List.cons_append, stops_cons, stops_cons]
  exact ⟨isWhiteSpace_eq_false_of_printable aboveSpace ascii, notBar⟩

theorem Substitution.label_inside
    (substitution : Substitution) :
    ∀ character ∈ substitution.label,
      (character != '|') = true :=
  forall_bne_iff_not_mem.mpr substitution.barFree

/-- White space ends where a substitution or a name starts. -/
theorem stops_isWhiteSpace_substitution
    (substitution : Option Substitution)
    {rest : List Char}
    (stops : Stops isWhiteSpace rest) :
    Stops isWhiteSpace (Substitution.written substitution ++ rest) := by
  cases substitution with
  | none =>
      exact stops
  | some substitution =>
      rw [Substitution.written, List.cons_append, stops_cons]
      decide

/-- The colons behind a name are the last name characters in front of the argument. -/
theorem DirectiveArgument.stops
    (argument : Option DirectiveArgument) :
    Stops isNameCharacter (written argument) := by
  cases argument with
  | none =>
      exact stops_nil isNameCharacter
  | some argument =>
      cases shape : argument.gap.text with
      | nil =>
          exact (argument.gap.nonEmpty shape).elim
      | cons first rest =>
          rw [written, shape, List.cons_append, stops_cons]
          apply isNameCharacter_eq_false_of_isWhiteSpace
          apply argument.gap.white
          simp [shape]

/-- The name and its two colons are one run of name characters. -/
theorem DirectiveName.colons_inside
    (name : DirectiveName) :
    ∀ character ∈ name.text ++ [':', ':'],
      isNameCharacter character = true := by
  intro character member
  rcases List.mem_append.mp member with inName | isColon
  · exact isNameCharacter_iff.mpr (name.inside character inName)
  · have colon : character = ':' := by
      simpa using isColon
    subst colon
    decide

/-! ## A text has at most one form -/

theorem Gap.cut_unique
    {gap other : Gap}
    {rest otherRest : List Char}
    (same : gap.text ++ rest = other.text ++ otherRest)
    (stops : Stops isWhiteSpace rest)
    (otherStops : Stops isWhiteSpace otherRest) :
    gap = other ∧ rest = otherRest := by
  obtain ⟨sameText, sameRest⟩ :=
    longestRun_unique same gap.white other.white stops otherStops
  exact ⟨Gap.ext sameText, sameRest⟩

theorem Substitution.cut_unique
    {substitution other : Option Substitution}
    {rest otherRest : List Char}
    (same : written substitution ++ rest = written other ++ otherRest)
    (stops : Stops isWhiteSpace rest ∧ Stops (· == '|') rest)
    (otherStops : Stops isWhiteSpace otherRest ∧ Stops (· == '|') otherRest) :
    substitution = other ∧ rest = otherRest := by
  cases substitution with
  | none =>
      cases other with
      | none =>
          exact ⟨rfl, same⟩
      | some other =>
          have noBar := stops.2
          rw [show rest = written (some other) ++ otherRest from same, written,
            List.cons_append, stops_cons] at noBar
          cases noBar
  | some substitution =>
      cases other with
      | none =>
          have noBar := otherStops.2
          rw [← show written (some substitution) ++ rest = otherRest from same, written,
            List.cons_append, stops_cons] at noBar
          cases noBar
      | some other =>
          have behindBar :
              substitution.label ++ '|' :: (substitution.gap.text ++ rest) =
                other.label ++ '|' :: (other.gap.text ++ otherRest) := by
            simpa [written] using same
          obtain ⟨sameLabel, sameGap⟩ :=
            longestRun_unique behindBar substitution.label_inside other.label_inside
              (by simp) (by simp)
          obtain ⟨gapEq, restEq⟩ :=
            Gap.cut_unique (List.cons.inj sameGap).2 stops.1 otherStops.1
          exact ⟨congrArg some (Substitution.ext sameLabel gapEq), restEq⟩

theorem DirectiveArgument.written_injective :
    Function.Injective written := by
  intro argument other same
  have notEmpty :
      ∀ argument : DirectiveArgument, written (some argument) ≠ [] := by
    intro argument empty
    exact argument.nonEmpty (List.append_eq_nil_iff.mp empty).2
  cases argument with
  | none =>
      cases other with
      | none =>
          rfl
      | some other =>
          exact (notEmpty other same.symm).elim
  | some argument =>
      cases other with
      | none =>
          exact (notEmpty argument same).elim
      | some other =>
          obtain ⟨sameGap, sameText⟩ :=
            Gap.cut_unique same argument.startsVisible other.startsVisible
          exact congrArg some (DirectiveArgument.ext sameGap sameText)

/--
A text can be taken apart in at most one way.  A name may itself end in colons, so the
run that is compared is the name with its two colons.
-/
theorem NamedForm.text_injective :
    Function.Injective NamedForm.text := by
  intro form other same
  have afterDots := List.append_cancel_left same
  have stops (form : NamedForm) :=
    form.name.stops ([':', ':'] ++ DirectiveArgument.written form.argument)
  simp only [List.append_assoc] at afterDots
  obtain ⟨sameGap, afterGap⟩ :=
    Gap.cut_unique afterDots
      (stops_isWhiteSpace_substitution form.substitution (stops form).1)
      (stops_isWhiteSpace_substitution other.substitution (stops other).1)
  obtain ⟨sameSubstitution, afterSubstitution⟩ :=
    Substitution.cut_unique afterGap (stops form) (stops other)
  simp only [← List.append_assoc] at afterSubstitution
  obtain ⟨sameName, sameArgument⟩ :=
    longestRun_unique afterSubstitution
      form.name.colons_inside other.name.colons_inside
      (DirectiveArgument.stops form.argument) (DirectiveArgument.stops other.argument)
  exact NamedForm.ext sameGap sameSubstitution
    (DirectiveName.ext (List.append_cancel_right sameName))
    (DirectiveArgument.written_injective sameArgument)

/-! ## Reading finds the form -/

/-- Skipping white space cuts off a gap. -/
theorem afterWhiteSpace?_eq_some_iff
    {text rest : List Char} :
    afterWhiteSpace? text = some rest ↔
      ∃ gap : Gap,
        text = gap.text ++ rest ∧ Stops isWhiteSpace rest := by
  constructor
  · intro skipped
    cases text with
    | nil =>
        cases skipped
    | cons first tail =>
        by_cases white : isWhiteSpace first = true
        · rw [afterWhiteSpace?, if_pos white] at skipped
          obtain rfl := Option.some.inj skipped
          obtain ⟨shape, inside, stops⟩ :=
            longestRun_iff.mp
              (⟨rfl, rfl⟩ : tail.takeWhile isWhiteSpace = _ ∧ tail.dropWhile isWhiteSpace = _)
          have gapWhite :
              ∀ character ∈ first :: tail.takeWhile isWhiteSpace,
                isWhiteSpace character = true := by
            intro character member
            rcases List.mem_cons.mp member with rfl | inTail
            · exact white
            · exact inside character inTail
          refine ⟨⟨_, List.cons_ne_nil _ _, gapWhite⟩, ?_, stops⟩
          exact congrArg (List.cons first) shape
        · rw [afterWhiteSpace?, if_neg white] at skipped
          cases skipped
  · rintro ⟨gap, rfl, stops⟩
    cases shape : gap.text with
    | nil =>
        exact (gap.nonEmpty shape).elim
    | cons first tail =>
        have gapWhite := gap.white
        rw [shape] at gapWhite
        have firstWhite : isWhiteSpace first = true :=
          gapWhite first (by simp)
        have tailWhite : ∀ character ∈ tail, isWhiteSpace character = true :=
          fun character member => gapWhite character (by simp [member])
        have cut := longestRun_iff.mpr ⟨rfl, tailWhite, stops⟩
        rw [List.cons_append, afterWhiteSpace?, if_pos firstWhite, trimStart, cut.2]

/-- A substitution is skipped where there is one, if what follows is none of its parts. -/
theorem afterSubstitution?_eq_some_iff
    {text rest : List Char}
    (stops : Stops isWhiteSpace rest ∧ Stops (· == '|') rest) :
    afterSubstitution? text = some rest ↔
      ∃ substitution,
        text = Substitution.written substitution ++ rest := by
  constructor
  · intro skipped
    unfold afterSubstitution? at skipped
    split at skipped
    · rename_i behindBar
      split at skipped
      · rename_i first label behind labelShape behindShape
        obtain ⟨gap, rfl, -⟩ := afterWhiteSpace?_eq_some_iff.mp skipped
        obtain ⟨shape, inside, -⟩ := longestRun_iff.mp ⟨labelShape, behindShape⟩
        have barFree := forall_bne_iff_not_mem.mp inside
        refine ⟨some ⟨first :: label, gap, List.cons_ne_nil _ _, barFree⟩, ?_⟩
        simp [Substitution.written, shape]
      · cases skipped
    · exact ⟨none, Option.some.inj skipped⟩
  · rintro ⟨substitution, rfl⟩
    cases substitution with
    | none =>
        have noBar := stops.2
        cases rest with
        | nil =>
            rfl
        | cons first tail =>
            rw [stops_cons] at noBar
            have notBar : first ≠ '|' := by
              simpa using noBar
            simp [Substitution.written, afterSubstitution?, notBar]
    | some substitution =>
        have skipped :=
          afterWhiteSpace?_eq_some_iff.mpr ⟨substitution.gap, rfl, stops.1⟩
        obtain ⟨labelShape, behindShape⟩ :=
          longestRun_iff.mpr
            ⟨(rfl : substitution.label ++ '|' :: (substitution.gap.text ++ rest) = _),
              substitution.label_inside, by simp⟩
        obtain ⟨first, label, shape⟩ := List.exists_cons_of_ne_nil substitution.nonEmpty
        rw [shape] at labelShape behindShape
        simp only [Substitution.written, shape, List.cons_append, List.append_assoc,
          afterSubstitution?] at labelShape behindShape ⊢
        rw [labelShape, behindShape]
        exact skipped

theorem beforeColons?_eq_some_iff
    {text word : List Char} :
    beforeColons? text = some word ↔ text = word ++ [':', ':'] := by
  constructor
  · intro cut
    unfold beforeColons? at cut
    split at cut
    · rename_i reversed shape
      obtain rfl := Option.some.inj cut
      have restored := congrArg List.reverse shape
      simpa using restored
    · cases cut
  · rintro rfl
    simp [beforeColons?]

theorem isSome_beforeColons?_iff
    {text : List Char} :
    (beforeColons? text).isSome = true ↔ [':', ':'] <:+ text := by
  rw [Option.isSome_iff_exists]
  constructor
  · rintro ⟨word, cut⟩
    exact ⟨word, (beforeColons?_eq_some_iff.mp cut).symm⟩
  · rintro ⟨word, shape⟩
    exact ⟨word, beforeColons?_eq_some_iff.mpr shape.symm⟩

theorem validName?_eq_some_iff
    {word name : List Char} :
    validName? word = some name ↔
      word = name ∧ ∃ first rest, name = first :: rest ∧ isNameStart first = true := by
  cases word with
  | nil =>
      simp only [validName?]
      constructor
      · intro impossible
        cases impossible
      · rintro ⟨rfl, first, rest, shape, -⟩
        cases shape
  | cons first rest =>
      by_cases isStart : isNameStart first = true
      · simp only [validName?, if_pos isStart, Option.some.injEq]
        constructor
        · rintro rfl
          exact ⟨rfl, first, rest, rfl, isStart⟩
        · exact fun same => same.1
      · simp only [validName?, if_neg isStart]
        constructor
        · intro impossible
          cases impossible
        · rintro ⟨rfl, start, tail, shape, startValid⟩
          cases shape
          exact (isStart startValid).elim

theorem Line.content_endsVisible
    (line : Line) :
    Stops isWhiteSpace line.content.reverse :=
  stops_reverse_trim line.text

namespace Directive

/-- Behind the colons stands nothing or an argument, when no white space ends the text. -/
theorem argument?_eq_some_iff
    {text : List Char}
    {argument : Option (List Char)}
    (endsVisible : Stops isWhiteSpace text.reverse) :
    argument? text = some argument ↔
      ∃ parsed,
        text = DirectiveArgument.written parsed ∧
          argument = parsed.map DirectiveArgument.text := by
  constructor
  · intro read
    unfold argument? at read
    split at read
    · exact ⟨none, rfl, (Option.some.inj read).symm⟩
    · split at read
      · cases read
      · rename_i words skipped
        obtain ⟨gap, rfl, startsVisible⟩ := afterWhiteSpace?_eq_some_iff.mp skipped
        split at read
        · cases read
        · rename_i singleRow
          have nonEmpty := gap.ne_nil_of_endsVisible endsVisible
          rw [if_neg (by simpa using nonEmpty)] at read
          refine ⟨some ⟨gap, words, nonEmpty, startsVisible, by simpa using singleRow⟩, rfl, ?_⟩
          exact (Option.some.inj read).symm
  · rintro ⟨parsed, rfl, rfl⟩
    cases parsed with
    | none =>
        rfl
    | some parsed =>
        have skipped :=
          afterWhiteSpace?_eq_some_iff.mpr ⟨parsed.gap, rfl, parsed.startsVisible⟩
        have notNil : parsed.gap.text ++ parsed.text ≠ [] := by
          simp [parsed.nonEmpty]
        simp only [DirectiveArgument.written, argument?, skipped]
        simp [parsed.singleRow, parsed.nonEmpty]

/-- The name is all of the run of name characters but its two colons. -/
theorem nameAndArgument?_eq_some_iff
    {text : List Char}
    {directive : Directive} :
    nameAndArgument? text = some directive ↔
      ∃ (name : DirectiveName) (rest : List Char) (argument : Option (List Char)),
        text = (name.text ++ [':', ':']) ++ rest ∧
          Stops isNameCharacter rest ∧
          argument? rest = some argument ∧
          directive = .named name.text argument := by
  simp only [nameAndArgument?, Option.bind_eq_bind, Option.bind_eq_some_iff]
  constructor
  · rintro ⟨word, cut, name, valid, argument, argumentRead, result⟩
    obtain ⟨rfl, starts⟩ := validName?_eq_some_iff.mp valid
    obtain ⟨shape, inside, stops⟩ :=
      longestRun_iff.mp ⟨beforeColons?_eq_some_iff.mp cut, rfl⟩
    have nameInside :
        ∀ character ∈ word,
          character.isAlphanum = true ∨ character ∈ ['_', ':', '+', '.', '-'] := by
      intro character member
      exact isNameCharacter_iff.mp (inside character (List.mem_append_left _ member))
    exact ⟨⟨word, starts, nameInside⟩, _, argument, shape, stops, argumentRead,
      (Option.some.inj result).symm⟩
  · rintro ⟨name, rest, argument, rfl, stops, argumentRead, rfl⟩
    obtain ⟨runShape, restShape⟩ :=
      longestRun_iff.mpr ⟨rfl, name.colons_inside, stops⟩
    rw [runShape, restShape]
    exact ⟨name.text, beforeColons?_eq_some_iff.mpr rfl, name.text,
      validName?_eq_some_iff.mpr ⟨rfl, name.starts⟩, argument, argumentRead, rfl⟩

/-- A named directive is read exactly from the texts of its forms. -/
theorem named?_eq_some_iff
    {content : List Char}
    {directive : Directive}
    (endsVisible : Stops isWhiteSpace content.reverse) :
    named? content = some directive ↔
      ∃ form : NamedForm,
        form.text = content ∧
          directive = .named form.name.text (form.argument.map DirectiveArgument.text) := by
  simp only [named?, Option.bind_eq_bind, Option.bind_eq_some_iff]
  constructor
  · rintro ⟨afterDots, dots, afterSpace, skipped, rest, substitutionSkipped, read⟩
    obtain rfl := afterStart?_eq_some_iff.mp dots
    obtain ⟨gap, rfl, -⟩ := afterWhiteSpace?_eq_some_iff.mp skipped
    obtain ⟨name, behind, argument, rfl, -, argumentRead, rfl⟩ :=
      nameAndArgument?_eq_some_iff.mp read
    have stops := name.stops ([':', ':'] ++ behind)
    rw [← List.append_assoc] at stops
    obtain ⟨substitution, rfl⟩ :=
      (afterSubstitution?_eq_some_iff stops).mp substitutionSkipped
    have behindEndsVisible : Stops isWhiteSpace behind.reverse :=
      endsVisible.reverse_of_append.reverse_of_append.reverse_of_append.reverse_of_append
    obtain ⟨parsed, rfl, rfl⟩ :=
      (argument?_eq_some_iff behindEndsVisible).mp argumentRead
    exact ⟨⟨gap, substitution, name, parsed⟩, rfl, rfl⟩
  · rintro ⟨form, rfl, rfl⟩
    have stops :=
      form.name.stops ([':', ':'] ++ DirectiveArgument.written form.argument)
    rw [← List.append_assoc] at stops
    have argumentRead :=
      (argument?_eq_some_iff
        endsVisible.reverse_of_append.reverse_of_append.reverse_of_append.reverse_of_append).mpr
          ⟨form.argument, rfl, rfl⟩
    have read :=
      nameAndArgument?_eq_some_iff.mpr
        ⟨form.name, _, _, rfl, DirectiveArgument.stops form.argument, argumentRead, rfl⟩
    have substitutionSkipped :=
      (afterSubstitution?_eq_some_iff stops).mpr ⟨form.substitution, rfl⟩
    have skipped :=
      afterWhiteSpace?_eq_some_iff.mpr
        ⟨form.gap, rfl, stops_isWhiteSpace_substitution form.substitution stops.1⟩
    exact ⟨_, afterStart?_eq_some_iff.mpr rfl, _, skipped, _, substitutionSkipped, read⟩

/-- No named directive is read exactly when the text has no form. -/
theorem named?_eq_none_iff
    {content : List Char}
    (endsVisible : Stops isWhiteSpace content.reverse) :
    named? content = none ↔ ∀ form : NamedForm, form.text ≠ content := by
  rw [Option.eq_none_iff_forall_ne_some]
  constructor
  · intro notRead form shape
    exact notRead _ ((named?_eq_some_iff endsVisible).mpr ⟨form, shape, rfl⟩)
  · intro noForm directive read
    obtain ⟨form, shape, -⟩ := (named?_eq_some_iff endsVisible).mp read
    exact noForm form shape

theorem ofLine?_of_form
    {line : Line}
    {form : NamedForm}
    (shape : form.text = line.content) :
    ofLine? line =
      some (.named form.name.text (form.argument.map DirectiveArgument.text)) := by
  have read :=
    (named?_eq_some_iff line.content_endsVisible).mpr ⟨form, shape, rfl⟩
  rw [ofLine?, ofContent?, read]

theorem ofLine?_of_formless
    {line : Line}
    (formless : ∀ form : NamedForm, form.text ≠ line.content) :
    ofLine? line =
      if (beforeColons? line.content).isSome then some .literalShorthand else none := by
  have notRead := (named?_eq_none_iff line.content_endsVisible).mpr formless
  rw [ofLine?, ofContent?, notRead]

/-- A line opens a named directive exactly when its content has a form. -/
theorem ofLine?_eq_named_iff
    {line : Line}
    {name : List Char}
    {argument : Option (List Char)} :
    ofLine? line = some (.named name argument) ↔
      ∃ form : NamedForm,
        form.text = line.content ∧
          form.name.text = name ∧
          form.argument.map DirectiveArgument.text = argument := by
  constructor
  · intro opened
    by_cases formed : ∃ form : NamedForm, form.text = line.content
    · obtain ⟨form, shape⟩ := formed
      rw [ofLine?_of_form shape] at opened
      cases opened
      exact ⟨form, shape, rfl, rfl⟩
    · rw [ofLine?_of_formless (not_exists.mp formed)] at opened
      split at opened <;> cases opened
  · rintro ⟨form, shape, rfl, rfl⟩
    exact ofLine?_of_form shape

/-- Any other result than a named directive depends on the end of a line without a form. -/
theorem ofLine?_eq_unnamed_iff
    {line : Line}
    {result : Option Directive}
    (unnamed : ∀ name argument, result ≠ some (.named name argument)) :
    ofLine? line = result ↔
      (∀ form : NamedForm, form.text ≠ line.content) ∧
        (if (beforeColons? line.content).isSome then some .literalShorthand else none) =
          result := by
  constructor
  · intro opened
    have formless : ∀ form : NamedForm, form.text ≠ line.content := by
      intro form shape
      exact unnamed _ _ (opened.symm.trans (ofLine?_of_form shape))
    exact ⟨formless, (ofLine?_of_formless formless).symm.trans opened⟩
  · rintro ⟨formless, same⟩
    exact (ofLine?_of_formless formless).trans same

/-- A line opens the shorthand when it has no named form and ends in two colons. -/
theorem ofLine?_eq_literalShorthand_iff
    {line : Line} :
    ofLine? line = some .literalShorthand ↔
      (∀ form : NamedForm, form.text ≠ line.content) ∧
        [':', ':'] <:+ line.content := by
  rw [ofLine?_eq_unnamed_iff (by simp), ← isSome_beforeColons?_iff]
  cases (beforeColons? line.content).isSome <;>
    simp

/-- A line opens nothing when it has no named form and does not end in two colons. -/
theorem ofLine?_eq_none_iff
    {line : Line} :
    ofLine? line = none ↔
      (∀ form : NamedForm, form.text ≠ line.content) ∧
        ¬ [':', ':'] <:+ line.content := by
  rw [ofLine?_eq_unnamed_iff (by simp), ← isSome_beforeColons?_iff]
  cases (beforeColons? line.content).isSome <;>
    simp

/--
Directives are read by an unambiguous grammar: a line opens a named directive
exactly when its content is the text of a form, of which there is at most one;
every other line opens the shorthand or nothing, depending on its last two
characters.
-/
theorem ofLine?_iff_grammar
    (line : Line) :
    (∀ name argument,
      ofLine? line = some (.named name argument) ↔
        ∃ form : NamedForm,
          form.text = trim line.text ∧
            form.name.text = name ∧
            form.argument.map DirectiveArgument.text = argument) ∧
      Function.Injective NamedForm.text ∧
      (ofLine? line = some .literalShorthand ↔
        (∀ form : NamedForm, form.text ≠ trim line.text) ∧
          [':', ':'] <:+ trim line.text) ∧
      (ofLine? line = none ↔
        (∀ form : NamedForm, form.text ≠ trim line.text) ∧
          ¬ [':', ':'] <:+ trim line.text) :=
  ⟨fun _ _ => ofLine?_eq_named_iff, NamedForm.text_injective,
    ofLine?_eq_literalShorthand_iff, ofLine?_eq_none_iff⟩

/-- An image behind a substitution, the shorthand behind a text, and a single colon. -/
theorem ofLine?_iff_grammar_at_image :
    ofLine? ⟨" .. |logo| image:: a.png \r".toList⟩ =
        some (.named "image".toList (some "a.png".toList)) ∧
      (∃ form : NamedForm,
        form.text = ".. |logo| image:: a.png".toList ∧
          form.name.text = "image".toList ∧
          form.argument.map DirectiveArgument.text = some "a.png".toList) ∧
      ofLine? ⟨".. image :: \t".toList⟩ = some .literalShorthand ∧
      (∀ form : NamedForm, form.text ≠ ".. image ::".toList) ∧
      ofLine? ⟨".. image: a.png".toList⟩ = none ∧
      (∀ form : NamedForm, form.text ≠ ".. image: a.png".toList) := by
  have image :
      ofLine? ⟨" .. |logo| image:: a.png \r".toList⟩ =
        some (.named "image".toList (some "a.png".toList)) := by
    decide
  have shorthand : ofLine? ⟨".. image :: \t".toList⟩ = some .literalShorthand := by
    decide
  have nothing : ofLine? ⟨".. image: a.png".toList⟩ = none := by
    decide
  exact
    ⟨image, ((ofLine?_iff_grammar _).1 _ _).mp image,
      shorthand, ((ofLine?_iff_grammar _).2.2.1.mp shorthand).1,
      nothing, ((ofLine?_iff_grammar _).2.2.2.mp nothing).1⟩

end Directive

end MarkupLint
