import MarkupLint.Proofs.Text.Run
import MarkupLint.Text.Lowercase

namespace MarkupLint

/-!
# Lower case and white space

White space has no lower-case form other than itself, so a text of nothing but
white space stays as it is.  It is neither cased nor passed over in the search for a
cased letter, so white space at the end of a text changes nothing before it.
-/

/-- White space lies inside ASCII or outside all runs of letters with a lower-case form. -/
theorem whiteSpaceRanges_apart_from_lowercaseRuns :
    ∀ range ∈ whiteSpaceRanges,
      range.2 ≤ 0x20 ∨
        0x80 ≤ range.1 ∧
          ∀ run ∈ lowercaseRuns,
            run.last < range.1 ∨ range.2 < run.first := by
  decide +kernel

/-- A character other than a capital ASCII letter is left alone. -/
theorem toLower_cases
    (character : Char) :
    character.toLower = character ∨ 0x41 ≤ character.toNat ∧ character.toNat ≤ 0x5A := by
  by_cases capital : character.val ≥ 'A'.val ∧ character.val ≤ 'Z'.val
  · exact .inr
      ⟨UInt32.le_iff_toNat_le.mp capital.1, UInt32.le_iff_toNat_le.mp capital.2⟩
  · exact .inl (dif_neg capital)

/-- White space is its own lower-case form. -/
theorem lowercaseCharacter_of_isWhiteSpace
    {character : Char}
    (white : isWhiteSpace character = true) :
    lowercaseCharacter character = [character] := by
  have notDotted : character ≠ '\u0130' := by
    rintro rfl
    revert white
    decide
  rw [isWhiteSpace, CodePointRanges.contains, List.any_eq_true] at white
  obtain ⟨range, member, inside⟩ := white
  simp only [Bool.and_eq_true, Nat.ble_eq] at inside
  rcases whiteSpaceRanges_apart_from_lowercaseRuns range member with ascii | ⟨beyondAscii, apart⟩
  · have noCapital : character.toLower = character :=
      (toLower_cases character).resolve_right (by omega)
    rw [lowercaseCharacter, if_pos (by omega), noCapital]
  · have notCovered : lowercaseRuns.find? (·.covers character.toNat) = none := by
      rw [List.find?_eq_none]
      intro run isRun covered
      simp only [CaseRun.covers, Bool.and_eq_true, Nat.ble_eq] at covered
      rcases apart run isRun with before | after <;>
        omega
    rw [lowercaseCharacter, if_neg (by omega), if_neg notDotted, notCovered]

/-! ## White space at the end of a text -/

theorem caseIgnorable_eq_false_of_isWhiteSpace
    {character : Char}
    (white : isWhiteSpace character = true) :
    caseIgnorableRanges.contains character = false :=
  CodePointRanges.contains_eq_false_of_apart (by decide +kernel) white

theorem cased_eq_false_of_isWhiteSpace
    {character : Char}
    (white : isWhiteSpace character = true) :
    casedRanges.contains character = false :=
  CodePointRanges.contains_eq_false_of_apart (by decide +kernel) white

/-- A word ends at white space, as it does at the end of a text. -/
theorem reachesCased_append_of_white
    (text : List Char)
    {trailing : List Char}
    (white : ∀ character ∈ trailing, isWhiteSpace character = true) :
    reachesCased (text ++ trailing) = reachesCased text := by
  rw [reachesCased, reachesCased, List.dropWhile_append]
  cases rest : text.dropWhile caseIgnorableRanges.contains with
  | nil =>
      cases trailing with
      | nil =>
          rfl
      | cons first others =>
          have firstWhite := white first (by simp)
          simp [caseIgnorable_eq_false_of_isWhiteSpace firstWhite,
            cased_eq_false_of_isWhiteSpace firstWhite]
  | cons first others =>
      rfl

theorem lowercaseAfter_of_white
    {text : List Char}
    (white : ∀ character ∈ text, isWhiteSpace character = true)
    (before : List Char) :
    lowercaseAfter before text = text := by
  induction text generalizing before with
  | nil =>
      rfl
  | cons first rest inductionHypothesis =>
      have firstWhite : isWhiteSpace first = true :=
        white first (by simp)
      have restWhite : ∀ character ∈ rest, isWhiteSpace character = true :=
        fun character member => white character (by simp [member])
      have notSigma : first ≠ 'Σ' := by
        rintro rfl
        revert firstWhite
        decide
      rw [lowercaseAfter, if_neg notSigma, lowercaseCharacter_of_isWhiteSpace firstWhite,
        inductionHypothesis restWhite]
      rfl

/-- A text of white space is its own lower-case form. -/
theorem lowercase_of_white
    {text : List Char}
    (white : ∀ character ∈ text, isWhiteSpace character = true) :
    lowercase text = text :=
  lowercaseAfter_of_white white []

/--
White space at the end stays there, and what stands before it is read as if it ended
there.  Only a capital sigma looks at what follows it.
-/
theorem lowercase_append_of_white
    (text : List Char)
    {trailing : List Char}
    (white : ∀ character ∈ trailing, isWhiteSpace character = true) :
    lowercase (text ++ trailing) = lowercase text ++ trailing := by
  have afterAny
      (before : List Char) :
      lowercaseAfter before (text ++ trailing) = lowercaseAfter before text ++ trailing := by
    induction text generalizing before with
    | nil =>
        exact lowercaseAfter_of_white white before
    | cons first rest inductionHypothesis =>
        rw [List.cons_append, lowercaseAfter, lowercaseAfter, inductionHypothesis, endsWord,
          endsWord, reachesCased_append_of_white rest white, List.append_assoc]
  exact afterAny []

end MarkupLint
