import MarkupLint.Text.Search

namespace MarkupLint

/-!
# Searching and splitting

A text occurs in another one when it is an infix of it.  Splitting takes a text
apart at a separator, and joining pieces that do not hold the separator puts the
text together again.
-/

theorem occursIn_iff_isInfix
    {piece text : List Char} :
    occursIn piece text = true ↔ piece <:+: text := by
  induction text with
  | nil =>
      rw [occursIn, List.isEmpty_iff, List.infix_nil]
  | cons first rest inductionHypothesis =>
      rw [occursIn, Bool.or_eq_true, List.isPrefixOf_iff_prefix, inductionHypothesis,
        List.infix_cons_iff]

/-- What stands in a text is made of characters of the text. -/
theorem mem_of_occursIn
    {piece text : List Char}
    (occurs : occursIn piece text = true)
    {character : Char}
    (member : character ∈ piece) :
    character ∈ text :=
  (occursIn_iff_isInfix.mp occurs).subset member

/-- Characters that do not stand in the piece put no further occurrence at the end of a text. -/
theorem occursIn_append_of_foreign
    {piece trailing : List Char}
    (notEmpty : piece ≠ [])
    (foreign : ∀ character ∈ trailing, character ∉ piece)
    (text : List Char) :
    occursIn piece (text ++ trailing) = occursIn piece text := by
  rw [Bool.eq_iff_iff, occursIn_iff_isInfix, occursIn_iff_isInfix, List.infix_append_iff]
  constructor
  · rintro (inText | inTrailing | ⟨left, right, rfl, inText, inTrailing⟩)
    · exact inText
    · obtain ⟨character, member⟩ := List.exists_mem_of_ne_nil piece notEmpty
      exact absurd member (foreign character (inTrailing.subset member))
    · cases right with
      | nil =>
          rw [List.append_nil]
          exact inText.isInfix
      | cons first rest =>
          have isForeign := foreign first (inTrailing.subset (by simp))
          exact absurd (by simp) isForeign
  · exact .inl

section

variable
  {α : Type}
  [DecidableEq α]

theorem exists_splitAtEach_eq_cons
    (separator : α)
    (text : List α) :
    ∃ piece pieces, splitAtEach separator text = piece :: pieces := by
  cases text with
  | nil =>
      exact ⟨[], [], rfl⟩
  | cons first rest =>
      rw [splitAtEach]
      split
      · exact ⟨_, _, rfl⟩
      · split
        · exact ⟨_, _, rfl⟩
        · exact ⟨_, _, rfl⟩

/-- The two sides of a separator are split on their own. -/
theorem splitAtEach_append_separator
    (separator : α)
    (before after : List α) :
    splitAtEach separator (before ++ separator :: after) =
      splitAtEach separator before ++ splitAtEach separator after := by
  induction before with
  | nil =>
      obtain ⟨piece, pieces, shape⟩ := exists_splitAtEach_eq_cons separator after
      simp [splitAtEach, shape]
  | cons first rest inductionHypothesis =>
      obtain ⟨piece, pieces, shape⟩ := exists_splitAtEach_eq_cons separator rest
      rw [List.cons_append, splitAtEach, inductionHypothesis, splitAtEach, shape]
      by_cases isSeparator : first = separator <;>
        simp [isSeparator]

theorem splitAtEach_of_not_mem
    {separator : α}
    {text : List α}
    (absent : separator ∉ text) :
    splitAtEach separator text = [text] := by
  induction text with
  | nil =>
      rfl
  | cons first rest inductionHypothesis =>
      rw [List.mem_cons, not_or] at absent
      rw [splitAtEach, inductionHypothesis absent.2]
      exact if_neg (Ne.symm absent.1)

/-- Splitting finds the pieces that were joined, if none of them holds the separator. -/
theorem splitAtEach_joinWith
    {separator : α}
    {pieces : List (List α)}
    (notEmpty : pieces ≠ [])
    (absent : ∀ piece ∈ pieces, separator ∉ piece) :
    splitAtEach separator (joinWith [separator] pieces) = pieces := by
  induction pieces with
  | nil =>
      exact absurd rfl notEmpty
  | cons piece rest inductionHypothesis =>
      have pieceSplit := splitAtEach_of_not_mem (absent piece (by simp))
      cases rest with
      | nil =>
          exact pieceSplit
      | cons next others =>
          have restSplit :=
            inductionHypothesis (by simp) fun other member => absent other (by simp [member])
          have shape :
              joinWith [separator] (piece :: next :: others) =
                piece ++ separator :: joinWith [separator] (next :: others) := by
            simp [joinWith]
          rw [shape, splitAtEach_append_separator, pieceSplit, restSplit]
          rfl

end

end MarkupLint
