import MarkupLint.Proofs.Text.Lowercase

namespace MarkupLint

/-!
# The lower-case form of a text

A character has one lower-case form wherever it stands, with one exception: the
capital sigma ends a word in another form than inside it.  `IsLowercaseOf` states
this place by place and says where a word ends without a search.

A word is recognised by its cased letters, and a capital ASCII letter is cased like
its small one.  So the case of ASCII letters has no effect on a lower-case text, not
even on the form of a sigma beside them.
-/

/-! ## Where a word ends -/

/-- A letter that belongs to a word and is not passed over where a word is looked for. -/
def IsWordLetter
    (character : Char) : Prop :=
  casedRanges.contains character = true ∧ caseIgnorableRanges.contains character = false

/-- All characters of the text are passed over where a word is looked for. -/
def IsCaseIgnorable
    (text : List Char) : Prop :=
  ∀ character ∈ text, caseIgnorableRanges.contains character = true

/-- A letter of a word stands at the start of the text or behind what is passed over there. -/
def StartsInWord
    (text : List Char) : Prop :=
  ∃ passed letter rest,
    text = passed ++ letter :: rest ∧ IsCaseIgnorable passed ∧ IsWordLetter letter

/-- A letter of a word stands at the end of the text or before what is passed over there. -/
def EndsInWord
    (text : List Char) : Prop :=
  ∃ rest letter passed,
    text = rest ++ letter :: passed ∧ IsCaseIgnorable passed ∧ IsWordLetter letter

theorem reachesCased_iff
    {text : List Char} :
    reachesCased text = true ↔ StartsInWord text := by
  unfold reachesCased
  constructor
  · intro reaches
    split at reaches
    · cases reaches
    · rename_i letter rest found
      obtain ⟨shape, passed, stops⟩ := longestRun_iff.mp ⟨rfl, found⟩
      exact ⟨_, letter, rest, shape, passed, reaches, (stops_cons _ _ _).mp stops⟩
  · rintro ⟨passed, letter, rest, rfl, ignorable, cased, notIgnorable⟩
    have found := (longestRun_iff.mpr ⟨rfl, ignorable, (stops_cons _ _ rest).mpr notIgnorable⟩).2
    rw [found]
    exact cased

theorem reachesCased_reverse_iff
    {text : List Char} :
    reachesCased text.reverse = true ↔ EndsInWord text := by
  rw [reachesCased_iff]
  constructor
  · rintro ⟨passed, letter, rest, shape, ignorable, isLetter⟩
    refine ⟨rest.reverse, letter, passed.reverse, ?_, ?_, isLetter⟩
    · rw [← List.reverse_reverse text, shape]
      simp
    · exact fun character member => ignorable character (List.mem_reverse.mp member)
  · rintro ⟨rest, letter, passed, rfl, ignorable, isLetter⟩
    refine ⟨passed.reverse, letter, rest.reverse, by simp, ?_, isLetter⟩
    exact fun character member => ignorable character (List.mem_reverse.mp member)

/-! ## The form of each character -/

/-- What a character becomes between two texts. -/
inductive LowersTo
    (before after : List Char) :
    Char → List Char → Prop where
  | finalSigma
      (endsBefore : EndsInWord before)
      (notAfter : ¬ StartsInWord after) :
      LowersTo before after 'Σ' ['ς']
  | innerSigma
      (inside : EndsInWord before → StartsInWord after) :
      LowersTo before after 'Σ' ['σ']
  | other
      {character : Char}
      (notSigma : character ≠ 'Σ') :
      LowersTo before after character (lowercaseCharacter character)

/-- Every character of the text stands in its lower-case form at its place. -/
def IsLowercaseOf
    (lowered text : List Char) : Prop :=
  ∃ forms : List (List Char),
    lowered = forms.flatten ∧
      forms.length = text.length ∧
      ∀ before character after,
        text = before ++ character :: after →
        ∃ form,
          forms[before.length]? = some form ∧ LowersTo before after character form

/-- The form that is chosen for the first character of what is left of a text. -/
theorem lowersTo_first
    (reversed : List Char)
    (character : Char)
    (after : List Char) :
    LowersTo reversed.reverse after character
      (if character = 'Σ' then
        [if endsWord reversed after then 'ς' else 'σ']
      else
        lowercaseCharacter character) := by
  by_cases isSigma : character = 'Σ'
  · subst isSigma
    have endsBefore : reachesCased reversed = true ↔ EndsInWord reversed.reverse := by
      rw [← reachesCased_reverse_iff, List.reverse_reverse]
    rw [if_pos rfl]
    by_cases ends : endsWord reversed after = true
    · rw [if_pos ends]
      rw [endsWord, Bool.and_eq_true, Bool.not_eq_true', ← Bool.not_eq_true] at ends
      exact .finalSigma (endsBefore.mp ends.1) (reachesCased_iff.not.mp ends.2)
    · rw [if_neg ends]
      refine .innerSigma fun inWord => reachesCased_iff.mp ?_
      rw [endsWord, endsBefore.mpr inWord, Bool.true_and, Bool.not_eq_true', Bool.not_eq_false]
        at ends
      exact ends
  · rw [if_neg isSigma]
    exact .other isSigma

/--
Lower-casing gives every character its form at its place.  What was read already is kept
in reverse, and the places are counted behind it.
-/
theorem lowercase_isLowercaseOf
    (text : List Char) :
    IsLowercaseOf (lowercase text) text := by
  have afterAny
      (reversed : List Char) :
      ∃ forms : List (List Char),
        lowercaseAfter reversed text = forms.flatten ∧
          forms.length = text.length ∧
          ∀ before character after,
            text = before ++ character :: after →
            ∃ form,
              forms[before.length]? = some form ∧
                LowersTo (reversed.reverse ++ before) after character form := by
    induction text generalizing reversed with
    | nil =>
        exact ⟨[], rfl, rfl, by simp⟩
    | cons first rest inductionHypothesis =>
        obtain ⟨forms, isFlat, sameLength, atPlaces⟩ := inductionHypothesis (first :: reversed)
        refine ⟨_ :: forms, by rw [lowercaseAfter, isFlat, List.flatten_cons], by simp [sameLength],
          ?_⟩
        intro before character after shape
        cases before with
        | nil =>
            obtain ⟨rfl, rfl⟩ := List.cons.inj shape
            refine ⟨_, rfl, ?_⟩
            rw [List.append_nil]
            exact lowersTo_first reversed first rest
        | cons next others =>
            obtain ⟨rfl, restShape⟩ := List.cons.inj shape
            obtain ⟨form, found, lowers⟩ := atPlaces others character after restShape
            exact ⟨form, by simpa using found, by simpa using lowers⟩
  exact afterAny []

/-! ## The case of ASCII letters -/

/-- The texts are the same but for the case of ASCII letters. -/
def SameInAnyCase
    (text other : List Char) : Prop :=
  text.map Char.toLower = other.map Char.toLower

/-- What does not tell a capital ASCII letter from its small one is blind to ASCII case. -/
theorem apply_toLower
    {α : Type}
    (property : Char → α)
    (blind :
      ∀ offset < 26,
        property (Char.ofNat (0x41 + offset)).toLower = property (Char.ofNat (0x41 + offset)))
    (character : Char) :
    property character.toLower = property character := by
  rcases toLower_cases character with same | ⟨low, high⟩
  · rw [same]
  · have isCapital : character = Char.ofNat (0x41 + (character.toNat - 0x41)) := by
      rw [Nat.add_sub_cancel' low, Char.ofNat_toNat]
    rw [isCapital]
    exact blind _ (by omega)

theorem casedRanges_contains_toLower
    (character : Char) :
    casedRanges.contains character.toLower = casedRanges.contains character :=
  apply_toLower casedRanges.contains (by decide +kernel) character

/-- The capital and the small ASCII letters. -/
def asciiLetterRanges : CodePointRanges :=
  [(0x41, 0x5A), (0x61, 0x7A)]

/-- No ASCII letter is passed over where a word is looked for. -/
theorem caseIgnorable_eq_false_of_asciiLetter
    {character : Char}
    (isLetter : asciiLetterRanges.contains character = true) :
    caseIgnorableRanges.contains character = false :=
  CodePointRanges.contains_eq_false_of_apart (by decide +kernel) isLetter

theorem caseIgnorableRanges_contains_toLower
    (character : Char) :
    caseIgnorableRanges.contains character.toLower = caseIgnorableRanges.contains character := by
  have areLetters :
      ∀ offset < 26,
        asciiLetterRanges.contains (Char.ofNat (0x41 + offset)).toLower = true ∧
          asciiLetterRanges.contains (Char.ofNat (0x41 + offset)) = true := by
    decide +kernel
  refine apply_toLower caseIgnorableRanges.contains (fun offset bound => ?_) character
  obtain ⟨small, capital⟩ := areLetters offset bound
  rw [caseIgnorable_eq_false_of_asciiLetter small,
    caseIgnorable_eq_false_of_asciiLetter capital]

theorem lowercaseCharacter_toLower
    (character : Char) :
    lowercaseCharacter character.toLower = lowercaseCharacter character :=
  apply_toLower lowercaseCharacter (by decide +kernel) character

theorem toLower_eq_sigma_iff
    (character : Char) :
    character.toLower = 'Σ' ↔ character = 'Σ' := by
  have blind : decide (character.toLower = 'Σ') = decide (character = 'Σ') :=
    apply_toLower (fun letter => decide (letter = 'Σ')) (by decide) character
  exact decide_eq_decide.mp blind

theorem reachesCased_map_toLower
    (text : List Char) :
    reachesCased (text.map Char.toLower) = reachesCased text := by
  have samePassed : caseIgnorableRanges.contains ∘ Char.toLower = caseIgnorableRanges.contains :=
    funext caseIgnorableRanges_contains_toLower
  rw [reachesCased, reachesCased, List.dropWhile_map, samePassed]
  cases text.dropWhile caseIgnorableRanges.contains with
  | nil =>
      rfl
  | cons letter rest =>
      exact casedRanges_contains_toLower letter

/-- ASCII letters in small letters make no difference to the lower-case form of a text. -/
theorem lowercase_map_toLower
    (text : List Char) :
    lowercase (text.map Char.toLower) = lowercase text := by
  have afterAny
      (before : List Char) :
      lowercaseAfter (before.map Char.toLower) (text.map Char.toLower) =
        lowercaseAfter before text := by
    induction text generalizing before with
    | nil =>
        rfl
    | cons first rest inductionHypothesis =>
        rw [List.map_cons, lowercaseAfter, lowercaseAfter, ← List.map_cons,
          inductionHypothesis (first :: before), endsWord, endsWord, reachesCased_map_toLower,
          reachesCased_map_toLower, lowercaseCharacter_toLower]
        simp only [toLower_eq_sigma_iff]
  exact afterAny []

theorem lowercase_eq_of_sameInAnyCase
    {text other : List Char}
    (same : SameInAnyCase text other) :
    lowercase text = lowercase other := by
  rw [← lowercase_map_toLower text, same, lowercase_map_toLower]

end MarkupLint
