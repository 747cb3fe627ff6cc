import MarkupLint.Json.Printer
import MarkupLint.Json.Reader
import MarkupLint.Proofs.Text.Numeral
import MarkupLint.Proofs.Text.Run

namespace MarkupLint

/-!
# Reading JSON back

A value whose numbers are integers is read back from its text, whichever layout the
text has.  The reader takes the value off the front and leaves what follows, provided
that it does not go on with a number.

Each reader is bounded by a count, and twice the number of characters that it takes off
is always enough.
-/

namespace Json

/-! ## Blanks -/

theorem skipBlanks_of_stops
    {text : List Char}
    (stops : Stops isBlank text) :
    skipBlanks text = text :=
  stops.dropWhile_eq

theorem isBlank_rowStart
    (layout : Layout)
    (depth : Nat) :
    ∀ character ∈ layout.rowStart depth, isBlank character = true := by
  intro character member
  cases layout with
  | compact =>
      cases member
  | pretty =>
      rw [Layout.rowStart, List.mem_cons, List.mem_replicate] at member
      rcases member with rfl | ⟨-, rfl⟩ <;>
        rfl

theorem exists_colon_eq
    (layout : Layout) :
    ∃ blanks, layout.colon = ':' :: blanks ∧
      ∀ character ∈ blanks, isBlank character = true := by
  cases layout with
  | compact =>
      exact ⟨[], rfl, by simp⟩
  | pretty =>
      exact ⟨[' '], rfl, by simp [isBlank]⟩

section

variable
  {blanks : List Char}
  (blank : ∀ character ∈ blanks, isBlank character = true)
  (fuel : Nat)
  (text : List Char)

include blank

theorem skipBlanks_blank_append :
    skipBlanks (blanks ++ text) = skipBlanks text :=
  List.dropWhile_append_of_pos blank

theorem value?_blank_append :
    value? fuel (blanks ++ text) = value? fuel text := by
  cases fuel with
  | zero =>
      simp only [value?]
  | succ fuel =>
      simp only [value?, skipBlanks_blank_append blank]

theorem items?_blank_append :
    items? fuel (blanks ++ text) = items? fuel text := by
  cases fuel with
  | zero =>
      simp only [items?]
  | succ fuel =>
      simp only [items?, value?_blank_append blank]

theorem members?_blank_append :
    members? fuel (blanks ++ text) = members? fuel text := by
  cases fuel with
  | zero =>
      simp only [members?]
  | succ fuel =>
      simp only [members?, skipBlanks_blank_append blank]

end

/-! ## Strings -/

/-- A character is escaped by a letter, by its code unit, or not at all. -/
theorem escape_cases
    (character : Char) :
    (∃ letter,
      escape character = ['\\', letter] ∧ letter ≠ 'u' ∧
        shortEscape? letter = some character) ∨
      (character.toNat < 0x20 ∧
        escape character =
          ['\\', 'u', '0', '0', digitCharacter (character.toNat / 16),
            digitCharacter (character.toNat % 16)]) ∨
      (escape character = [character] ∧ character ≠ '\x22' ∧ character ≠ '\\' ∧
        ¬ character.toNat < 0x20) := by
  generalize written : escape character = escaped
  rw [escape] at written
  by_cases isQuote : character = '\x22'
  · rw [if_pos isQuote] at written
    exact .inl ⟨'\x22', written.symm, by decide, congrArg some isQuote.symm⟩
  rw [if_neg isQuote] at written
  by_cases isBackslash : character = '\\'
  · rw [if_pos isBackslash] at written
    exact .inl ⟨'\\', written.symm, by decide, congrArg some isBackslash.symm⟩
  rw [if_neg isBackslash] at written
  by_cases isBackspace : character = '\x08'
  · rw [if_pos isBackspace] at written
    exact .inl ⟨'b', written.symm, by decide, congrArg some isBackspace.symm⟩
  rw [if_neg isBackspace] at written
  by_cases isFormFeed : character = '\x0c'
  · rw [if_pos isFormFeed] at written
    exact .inl ⟨'f', written.symm, by decide, congrArg some isFormFeed.symm⟩
  rw [if_neg isFormFeed] at written
  by_cases isNewline : character = '\n'
  · rw [if_pos isNewline] at written
    exact .inl ⟨'n', written.symm, by decide, congrArg some isNewline.symm⟩
  rw [if_neg isNewline] at written
  by_cases isReturn : character = '\r'
  · rw [if_pos isReturn] at written
    exact .inl ⟨'r', written.symm, by decide, congrArg some isReturn.symm⟩
  rw [if_neg isReturn] at written
  by_cases isTab : character = '\t'
  · rw [if_pos isTab] at written
    exact .inl ⟨'t', written.symm, by decide, congrArg some isTab.symm⟩
  rw [if_neg isTab] at written
  by_cases isControl : character.toNat < 0x20
  · rw [if_pos isControl] at written
    exact .inr (.inl ⟨isControl, written.symm⟩)
  · rw [if_neg isControl] at written
    exact .inr (.inr ⟨written.symm, isQuote, isBackslash, isControl⟩)

theorem codeUnit?_digitCharacters
    {unit : Nat}
    (small : unit < 0x20)
    (rest : List Char) :
    codeUnit?
        ('0' :: '0' :: digitCharacter (unit / 16) :: digitCharacter (unit % 16) :: rest) =
      some (unit, rest) := by
  have zero : digitValue? '0' = some 0 := by
    decide
  have high : digitValue? (digitCharacter (unit / 16)) = some (unit / 16) :=
    digitValue?_digitCharacter (by omega)
  have low : digitValue? (digitCharacter (unit % 16)) = some (unit % 16) :=
    digitValue?_digitCharacter (by omega)
  have value : unit / 16 * 16 + unit % 16 = unit := by
    omega
  simp [codeUnit?, zero, high, low, value]

theorem numericEscape?_digitCharacters
    {character : Char}
    (isControl : character.toNat < 0x20)
    (rest : List Char) :
    numericEscape?
        ('0' :: '0' :: digitCharacter (character.toNat / 16) ::
          digitCharacter (character.toNat % 16) :: rest) =
      some (character, rest) := by
  have belowSurrogates : character.toNat < 0xD800 := by
    omega
  simp [numericEscape?, codeUnit?_digitCharacters isControl, belowSurrogates, Char.ofNat_toNat]

/-- A character is read back from its escape. -/
theorem stringBody?_escape_append
    (fuel : Nat)
    (character : Char)
    (text : List Char) :
    stringBody? (fuel + 1) (escape character ++ text) =
      (stringBody? fuel text).map fun (body, rest) => (character :: body, rest) := by
  rcases escape_cases character with
    ⟨letter, shape, notNumeric, decoded⟩ | ⟨isControl, shape⟩ |
      ⟨shape, notQuote, notBackslash, notControl⟩
  · cases read : stringBody? fuel text <;>
      simp [shape, stringBody?, decoded, read]
  · cases read : stringBody? fuel text <;>
      simp [shape, stringBody?, numericEscape?_digitCharacters isControl, read]
  · cases read : stringBody? fuel text <;>
      simp [shape, stringBody?, notQuote, notBackslash, notControl, read]

theorem stringBody?_flatMap_escape
    {fuel : Nat}
    {body : List Char}
    (enough : body.length < fuel)
    (rest : List Char) :
    stringBody? fuel (body.flatMap escape ++ '\x22' :: rest) = some (body, rest) := by
  induction body generalizing fuel with
  | nil =>
      obtain ⟨fuel, rfl⟩ := Nat.exists_eq_add_one_of_ne_zero (Nat.ne_zero_of_lt enough)
      rfl
  | cons character body inductionHypothesis =>
      obtain ⟨fuel, rfl⟩ := Nat.exists_eq_add_one_of_ne_zero (Nat.ne_zero_of_lt enough)
      rw [List.length_cons, Nat.add_lt_add_iff_right] at enough
      rw [List.flatMap_cons, List.append_assoc, stringBody?_escape_append,
        inductionHypothesis enough, Option.map_some]

theorem length_le_length_flatMap_escape
    (body : List Char) :
    body.length ≤ (body.flatMap escape).length := by
  induction body with
  | nil =>
      exact Nat.le_refl _
  | cons character body inductionHypothesis =>
      have notEmpty : 0 < (escape character).length := by
        rcases escape_cases character with ⟨letter, shape, -⟩ | ⟨-, shape⟩ | ⟨shape, -⟩ <;>
          simp [shape]
      rw [List.flatMap_cons, List.length_append, List.length_cons]
      omega

/-- A text is read back from its quoted form, of which the opening quote is gone. -/
theorem string?_quoted
    {fuel : Nat}
    {text : String}
    (enough : (quote text.toList).length ≤ fuel)
    (rest : List Char) :
    string? fuel (text.toList.flatMap escape ++ '\x22' :: rest) = some (text, rest) := by
  have short := length_le_length_flatMap_escape text.toList
  have enoughForBody : text.toList.length < fuel := by
    simp only [quote, List.length_append, List.length_cons, List.length_nil] at enough
    omega
  simp only [string?, stringBody?_flatMap_escape enoughForBody, Option.map_some,
    String.ofList_toList]

/-! ## Numbers -/

/-- Whether a character behind the digits of a number would belong to the number. -/
def continuesNumber (character : Char) : Bool :=
  character.isDigit || character == '.' || character == 'e' || character == 'E'

theorem digits?_numeral_append
    (number : Nat)
    {rest : List Char}
    (stops : Stops continuesNumber rest) :
    digits? (numeral number ++ rest) = some (numeral number, rest) := by
  have stopsDigits : Stops Char.isDigit rest := by
    intro character isHead
    have notContinued := stops character isHead
    simp only [continuesNumber, Bool.or_eq_false_iff] at notContinued
    exact notContinued.1.1.1
  obtain ⟨isRun, isRest⟩ :=
    longestRun_iff.mpr ⟨rfl, fun _ => isDigit_of_mem_numeral, stopsDigits⟩
  rw [digits?, isRun, isRest]
  obtain ⟨first, others, shape, -⟩ := exists_numeral_eq_cons number
  rw [shape]

theorem fraction?_of_stops
    {rest : List Char}
    (stops : Stops continuesNumber rest) :
    fraction? rest = some ([], rest) := by
  unfold fraction?
  split
  · cases (stops_cons _ _ _).mp stops
  · rfl

theorem exponent?_of_stops
    {rest : List Char}
    (stops : Stops continuesNumber rest) :
    exponent? rest = some ([], rest) := by
  cases rest with
  | nil =>
      rfl
  | cons first others =>
      rw [exponent?, if_neg]
      rintro (rfl | rfl) <;>
        cases (stops_cons _ _ _).mp stops

theorem magnitude?_numeral_append
    (number : Nat)
    {rest : List Char}
    (stops : Stops continuesNumber rest) :
    magnitude? (numeral number ++ rest) = some (numeral number, [], rest) := by
  simp only [magnitude?, digits?_numeral_append number stops, fraction?_of_stops stops,
    exponent?_of_stops stops, if_neg (numeral_has_no_leading_zero number), Option.bind_eq_bind,
    Option.bind_some, Option.pure_def, List.append_nil]

/-- An integer is read back from its number. -/
theorem number?_renderInteger_append
    (value : Int)
    {rest : List Char}
    (stops : Stops continuesNumber rest) :
    number? (renderInteger value ++ rest) = some (integer value, rest) := by
  cases value with
  | ofNat value =>
      have read := magnitude?_numeral_append value stops
      rw [renderInteger]
      unfold number?
      split
      · rename_i text negative
        obtain ⟨first, others, shape, isDigit⟩ := exists_numeral_eq_cons value
        rw [shape, List.cons_append, List.cons.injEq] at negative
        rw [negative.1] at isDigit
        cases isDigit
      · simp [read, numeralValue_numeral]
  | negSucc value =>
      have read := magnitude?_numeral_append (value + 1) stops
      simp [renderInteger, number?, read, numeralValue_numeral, Int.negSucc_eq]

/-! ## Values -/

/-- All numbers in a value are integers. -/
inductive IsIntegral : Json → Prop where
  | null : IsIntegral null
  | boolean (value : Bool) : IsIntegral (boolean value)
  | integer (value : Int) : IsIntegral (integer value)
  | string (value : String) : IsIntegral (string value)
  | array
      {items : List Json}
      (integral : ∀ item ∈ items, IsIntegral item) :
      IsIntegral (array items)
  | object
      {members : List (String × Json)}
      (integral : ∀ member ∈ members, IsIntegral member.2) :
      IsIntegral (object members)

section

variable
  (layout : Layout)
  (depth : Nat)

theorem renderAt_integer
    (value : Int) :
    renderAt layout depth (integer value) = renderInteger value :=
  rfl

theorem renderAt_string
    (value : String) :
    renderAt layout depth (string value) = quote value.toList :=
  rfl

theorem renderAt_array
    (item : Json)
    (items : List Json) :
    renderAt layout depth (array (item :: items)) =
      '[' :: layout.rowStart (depth + 1) ++ renderAt layout (depth + 1) item ++
        renderItems layout (depth + 1) items ++ layout.rowStart depth ++ [']'] :=
  rfl

theorem renderAt_object
    (name : String)
    (value : Json)
    (members : List (String × Json)) :
    renderAt layout depth (object ((name, value) :: members)) =
      '\x7b' :: layout.rowStart (depth + 1) ++ quote name.toList ++ layout.colon ++
        renderAt layout (depth + 1) value ++ renderMembers layout (depth + 1) members ++
        layout.rowStart depth ++ ['\x7d'] :=
  rfl

end

/-- The value is taken off the front of a text that starts with its text. -/
def IsReadBack
    (layout : Layout)
    (value : Json) : Prop :=
  ∀ (depth fuel : Nat) (rest : List Char),
    2 * (renderAt layout depth value).length < fuel →
    Stops continuesNumber rest →
    value? fuel (renderAt layout depth value ++ rest) = some (value, rest)

/-- A text that starts with a bracket is no value. -/
theorem skipBlanks_ne_bracket_of_value?
    {fuel : Nat}
    {text rest : List Char}
    {value : Json}
    (read : value? fuel text = some (value, rest))
    (others : List Char) :
    skipBlanks text ≠ ']' :: others := by
  intro startsWithBracket
  cases fuel with
  | zero =>
      simp [value?] at read
  | succ fuel =>
      simp [value?, startsWithBracket, number?, magnitude?, digits?] at read

theorem exists_renderInteger_eq_cons
    (value : Int) :
    ∃ first others, renderInteger value = first :: others ∧
      (first.isDigit = true ∨ first = '-') := by
  cases value with
  | ofNat value =>
      obtain ⟨first, others, shape, isDigit⟩ := exists_numeral_eq_cons value
      exact ⟨first, others, shape, .inl isDigit⟩
  | negSucc value =>
      exact ⟨'-', numeral (value + 1), rfl, .inr rfl⟩

/-- A text that starts with a digit or a sign is read as a number. -/
theorem value?_eq_number?
    (fuel : Nat)
    {first : Char}
    (starts : first.isDigit = true ∨ first = '-')
    (others : List Char) :
    value? (fuel + 1) (first :: others) = number? (first :: others) := by
  have startsNothingElse :
      (first ≠ ' ' ∧ first ≠ '\t' ∧ first ≠ '\n' ∧ first ≠ '\r') ∧
        first ≠ '\x22' ∧ first ≠ '[' ∧ first ≠ '\x7b' ∧ first ≠ 'n' ∧ first ≠ 't' ∧
        first ≠ 'f' := by
    refine ⟨⟨?_, ?_, ?_, ?_⟩, ?_, ?_, ?_, ?_, ?_, ?_⟩ <;>
      · rintro rfl
        revert starts
        decide
  have atFirst : skipBlanks (first :: others) = first :: others := by
    apply skipBlanks_of_stops
    simp [isBlank, startsNothingElse]
  simp only [value?, atFirst]
  split <;>
    simp_all

/-- A row that starts with a closing character ends a number before it. -/
theorem stops_rowStart_append
    (layout : Layout)
    (depth : Nat)
    {closing : Char}
    (notContinued : continuesNumber closing = false)
    (rest : List Char) :
    Stops continuesNumber (layout.rowStart depth ++ closing :: rest) := by
  cases layout with
  | compact =>
      simpa [Layout.rowStart] using notContinued
  | pretty =>
      simp [Layout.rowStart, continuesNumber]

theorem stops_renderItems_append
    (layout : Layout)
    (depth outer : Nat)
    (items : List Json)
    (rest : List Char) :
    Stops continuesNumber
      (renderItems layout depth items ++ (layout.rowStart outer ++ ']' :: rest)) := by
  cases items with
  | nil =>
      exact stops_rowStart_append layout outer rfl rest
  | cons item items =>
      simp [renderItems, continuesNumber]

theorem stops_renderMembers_append
    (layout : Layout)
    (depth outer : Nat)
    (members : List (String × Json))
    (rest : List Char) :
    Stops continuesNumber
      (renderMembers layout depth members ++ (layout.rowStart outer ++ '\x7d' :: rest)) := by
  cases members with
  | nil =>
      exact stops_rowStart_append layout outer rfl rest
  | cons member members =>
      simp [renderMembers, continuesNumber]

theorem skipBlanks_rowStart_cons
    (layout : Layout)
    (depth : Nat)
    {first : Char}
    (notBlank : isBlank first = false)
    (rest : List Char) :
    skipBlanks (layout.rowStart depth ++ first :: rest) = first :: rest := by
  rw [skipBlanks_blank_append (isBlank_rowStart layout depth)]
  exact skipBlanks_of_stops ((stops_cons _ _ _).mpr notBlank)

section

variable
  {layout : Layout}
  (depth : Nat)

/-- The items of an array are read back up to the closing bracket. -/
theorem items?_render
    {first : Json}
    {items : List Json}
    (readBack : ∀ item ∈ first :: items, IsReadBack layout item)
    {fuel : Nat}
    (enough :
      2 * (renderAt layout depth first ++ renderItems layout depth items).length + 1 < fuel)
    (outer : Nat)
    (rest : List Char) :
    items? fuel
        (renderAt layout depth first ++
          (renderItems layout depth items ++ (layout.rowStart outer ++ ']' :: rest))) =
      some (first :: items, rest) := by
  induction items generalizing first fuel with
  | nil =>
      obtain ⟨fuel, rfl⟩ := Nat.exists_eq_add_one_of_ne_zero (Nat.ne_zero_of_lt enough)
      simp only [renderItems, List.append_nil] at enough
      have read :=
        readBack first List.mem_cons_self depth fuel _ (by omega)
          (stops_renderItems_append layout depth outer [] rest)
      have atBracket : skipBlanks (layout.rowStart outer ++ ']' :: rest) = ']' :: rest :=
        skipBlanks_rowStart_cons layout outer rfl rest
      simp only [items?, read]
      simp only [renderItems, List.nil_append, atBracket]
  | cons item items inductionHypothesis =>
      obtain ⟨fuel, rfl⟩ := Nat.exists_eq_add_one_of_ne_zero (Nat.ne_zero_of_lt enough)
      simp only [renderItems, List.length_append, List.length_cons] at enough
      have read :=
        readBack first List.mem_cons_self depth fuel _ (by omega)
          (stops_renderItems_append layout depth outer (item :: items) rest)
      have readItems :=
        inductionHypothesis
          (fun other member => readBack other (List.mem_cons_of_mem first member))
          (show _ + 1 < fuel by rw [List.length_append]; omega)
      have atComma : ∀ text, skipBlanks (',' :: text) = ',' :: text :=
        fun _ => rfl
      simp only [items?, read]
      simp only [renderItems, List.cons_append, List.append_assoc, atComma,
        items?_blank_append (isBlank_rowStart layout depth), readItems, Option.map_some]

/-- A member is taken off the front; what follows decides whether there are more. -/
theorem members?_member_append
    {name : String}
    {value : Json}
    {fuel : Nat}
    {trailing : List Char}
    (readBack : IsReadBack layout value)
    (enough :
      2 * (quote name.toList ++ layout.colon ++ renderAt layout depth value).length < fuel)
    (stops : Stops continuesNumber trailing) :
    members? (fuel + 1)
        (quote name.toList ++
          (layout.colon ++ (renderAt layout depth value ++ trailing))) =
      match skipBlanks trailing with
      | ',' :: rest =>
          (members? fuel rest).map fun (members, rest) => ((name, value) :: members, rest)
      | '\x7d' :: rest => some ([(name, value)], rest)
      | _ => none := by
  obtain ⟨blanks, colon, blank⟩ := exists_colon_eq layout
  simp only [List.length_append] at enough
  have atQuote : ∀ text, skipBlanks ('\x22' :: text) = '\x22' :: text :=
    fun _ => rfl
  have atColon : ∀ text, skipBlanks (':' :: text) = ':' :: text :=
    fun _ => rfl
  have readName :=
    string?_quoted (show (quote name.toList).length ≤ fuel by omega)
  have readValue := readBack depth fuel trailing (by omega) stops
  apply Eq.trans
  · simp only [members?, quote, colon, List.cons_append, List.append_assoc, List.nil_append,
      atQuote, readName, atColon, value?_blank_append blank, readValue]
    rfl
  · rfl

/-- The members of an object are read back up to the closing brace. -/
theorem members?_render
    {name : String}
    {value : Json}
    {members : List (String × Json)}
    (readBack : ∀ member ∈ (name, value) :: members, IsReadBack layout member.2)
    {fuel : Nat}
    (enough :
      2 * (quote name.toList ++ layout.colon ++ renderAt layout depth value ++
        renderMembers layout depth members).length + 1 < fuel)
    (outer : Nat)
    (rest : List Char) :
    members? fuel
        (quote name.toList ++ (layout.colon ++ (renderAt layout depth value ++
          (renderMembers layout depth members ++ (layout.rowStart outer ++ '\x7d' :: rest))))) =
      some ((name, value) :: members, rest) := by
  induction members generalizing name value fuel with
  | nil =>
      obtain ⟨fuel, rfl⟩ := Nat.exists_eq_add_one_of_ne_zero (Nat.ne_zero_of_lt enough)
      simp only [renderMembers, List.append_nil] at enough
      have valueReadBack : IsReadBack layout value :=
        readBack (name, value) List.mem_cons_self
      have atBrace : skipBlanks (layout.rowStart outer ++ '\x7d' :: rest) = '\x7d' :: rest :=
        skipBlanks_rowStart_cons layout outer rfl rest
      rw [members?_member_append depth valueReadBack (by omega)
        (stops_renderMembers_append layout depth outer [] rest)]
      simp only [renderMembers, List.nil_append, atBrace]
  | cons member members inductionHypothesis =>
      obtain ⟨fuel, rfl⟩ := Nat.exists_eq_add_one_of_ne_zero (Nat.ne_zero_of_lt enough)
      simp only [renderMembers, List.length_append, List.length_cons] at enough
      have valueReadBack : IsReadBack layout value :=
        readBack (name, value) List.mem_cons_self
      have readMembers :=
        inductionHypothesis
          (fun other isMember => readBack other (List.mem_cons_of_mem (name, value) isMember))
          (show _ + 1 < fuel by simp only [List.length_append]; omega)
      have atComma : ∀ text, skipBlanks (',' :: text) = ',' :: text :=
        fun _ => rfl
      rw [members?_member_append depth valueReadBack (by simp only [List.length_append]; omega)
        (stops_renderMembers_append layout depth outer (member :: members) rest)]
      simp only [renderMembers, List.cons_append, List.append_assoc, atComma,
        members?_blank_append (isBlank_rowStart layout depth), readMembers, Option.map_some]

theorem isReadBack_integer
    (value : Int) :
    IsReadBack layout (integer value) := by
  intro depth fuel rest enough stops
  obtain ⟨fuel, rfl⟩ := Nat.exists_eq_add_one_of_ne_zero (Nat.ne_zero_of_lt enough)
  have read := number?_renderInteger_append value stops
  obtain ⟨first, others, shape, starts⟩ := exists_renderInteger_eq_cons value
  rw [renderAt_integer, shape, List.cons_append, value?_eq_number? fuel starts, ← List.cons_append,
    ← shape, read]

theorem isReadBack_array
    {items : List Json}
    (readBack : ∀ item ∈ items, IsReadBack layout item) :
    IsReadBack layout (array items) := by
  intro depth fuel rest enough _
  obtain ⟨fuel, rfl⟩ := Nat.exists_eq_add_one_of_ne_zero (Nat.ne_zero_of_lt enough)
  cases items with
  | nil =>
      rfl
  | cons first items =>
      simp only [renderAt_array, List.length_append, List.length_cons] at enough
      have readItems :=
        items?_render (depth + 1) readBack
          (show _ + 1 < fuel by simp only [List.length_append]; omega) depth rest
      have atOpening : ∀ text, skipBlanks ('[' :: text) = '[' :: text :=
        fun _ => rfl
      have readFirst :=
        readBack first List.mem_cons_self (depth + 1) _ _ (Nat.lt_add_one _)
          (stops_renderItems_append layout (depth + 1) depth items rest)
      rw [← value?_blank_append (isBlank_rowStart layout (depth + 1))] at readFirst
      simp only [renderAt_array, value?, List.cons_append, List.append_assoc, List.nil_append,
        atOpening]
      split
      · rename_i others isEmpty
        exact absurd isEmpty (skipBlanks_ne_bracket_of_value? readFirst others)
      · rw [items?_blank_append (isBlank_rowStart layout (depth + 1)), readItems, Option.map_some]

theorem isReadBack_object
    {members : List (String × Json)}
    (readBack : ∀ member ∈ members, IsReadBack layout member.2) :
    IsReadBack layout (object members) := by
  intro depth fuel rest enough _
  obtain ⟨fuel, rfl⟩ := Nat.exists_eq_add_one_of_ne_zero (Nat.ne_zero_of_lt enough)
  cases members with
  | nil =>
      rfl
  | cons member members =>
      obtain ⟨name, value⟩ := member
      simp only [renderAt_object, List.length_append, List.length_cons] at enough
      have readMembers :=
        members?_render (depth + 1) readBack
          (show _ + 1 < fuel by simp only [List.length_append]; omega) depth rest
      have atOpening : ∀ text, skipBlanks ('\x7b' :: text) = '\x7b' :: text :=
        fun _ => rfl
      have atQuote : ∀ text,
          skipBlanks (layout.rowStart (depth + 1) ++ '\x22' :: text) = '\x22' :: text :=
        skipBlanks_rowStart_cons layout (depth + 1) rfl
      simp only [quote, List.cons_append, List.append_assoc, List.nil_append] at readMembers
      simp only [renderAt_object, value?, quote, List.cons_append, List.append_assoc,
        List.nil_append, atOpening, atQuote,
        members?_blank_append (isBlank_rowStart layout (depth + 1)), readMembers, Option.map_some]
      rfl

/-- A value whose numbers are integers is read back from its text. -/
theorem IsIntegral.isReadBack
    {value : Json}
    (integral : value.IsIntegral) :
    IsReadBack layout value := by
  induction integral with
  | null =>
      intro depth fuel rest enough _
      obtain ⟨fuel, rfl⟩ := Nat.exists_eq_add_one_of_ne_zero (Nat.ne_zero_of_lt enough)
      rfl
  | boolean value =>
      intro depth fuel rest enough _
      obtain ⟨fuel, rfl⟩ := Nat.exists_eq_add_one_of_ne_zero (Nat.ne_zero_of_lt enough)
      cases value <;>
        rfl
  | integer value =>
      exact isReadBack_integer value
  | string value =>
      intro depth fuel rest enough _
      obtain ⟨fuel, rfl⟩ := Nat.exists_eq_add_one_of_ne_zero (Nat.ne_zero_of_lt enough)
      rw [renderAt_string] at enough ⊢
      have atQuote : ∀ text, skipBlanks ('\x22' :: text) = '\x22' :: text :=
        fun _ => rfl
      have read := string?_quoted (show (quote value.toList).length ≤ fuel by omega) rest
      simp only [quote, List.cons_append, List.append_assoc, List.nil_append, value?, atQuote,
        read, Option.map_some]
  | array _ inductionHypothesis =>
      exact isReadBack_array inductionHypothesis
  | object _ inductionHypothesis =>
      exact isReadBack_object inductionHypothesis

end

/-- A whole text, with blanks behind it, stands for the value that it was made from. -/
theorem parse?_render_append
    {layout : Layout}
    {value : Json}
    (integral : value.IsIntegral)
    {trailing : List Char}
    (blank : ∀ character ∈ trailing, isBlank character = true) :
    parse? (render layout value ++ trailing) = some value := by
  have stops : Stops continuesNumber trailing := by
    intro character isHead
    have isOneOf := blank character (List.mem_of_mem_head? isHead)
    simp only [isBlank, Bool.or_eq_true, beq_iff_eq] at isOneOf
    rcases isOneOf with ((rfl | rfl) | rfl) | rfl <;>
      rfl
  have nothingLeft : skipBlanks trailing = [] :=
    List.dropWhile_eq_nil_iff.mpr blank
  have enough :
      2 * (render layout value).length < 2 * (render layout value ++ trailing).length + 1 := by
    rw [List.length_append]
    omega
  have read := integral.isReadBack 0 _ trailing enough stops
  simp only [parse?, render] at read ⊢
  rw [read]
  simp only [nothingLeft, List.isEmpty_nil, if_true]

end Json

end MarkupLint
