import Mathlib.Data.List.TakeWhile
import MarkupLint.Text.Search
import MarkupLint.Text.WhiteSpace

namespace MarkupLint

/-!
# Longest runs

A reader of a line cuts off the longest run of some class of characters.  The
cut is determined by the text alone: the run holds only characters of the
class, and what follows does not start with one.  The grammars of lines are
unambiguous for this reason.
-/

/-- A run of the class ends in front of the text, which is empty or starts outside it. -/
def Stops (belongs : Char → Bool) (text : List Char) : Prop :=
  ∀ character ∈ text.head?, belongs character = false

@[simp] theorem stops_nil
    (belongs : Char → Bool) :
    Stops belongs [] := by
  simp [Stops]

@[simp] theorem stops_cons
    (belongs : Char → Bool)
    (first : Char)
    (rest : List Char) :
    Stops belongs (first :: rest) ↔ belongs first = false := by
  simp [Stops]

theorem Stops.of_append
    {belongs : Char → Bool}
    {leading trailing : List Char}
    (stops : Stops belongs (leading ++ trailing)) :
    Stops belongs leading := by
  cases leading with
  | nil =>
      exact stops_nil belongs
  | cons first rest =>
      simpa using stops

theorem Stops.reverse_of_append
    {belongs : Char → Bool}
    {leading trailing : List Char}
    (stops : Stops belongs (leading ++ trailing).reverse) :
    Stops belongs trailing.reverse := by
  rw [List.reverse_append] at stops
  exact stops.of_append

/-- What is left behind the longest run does not continue it. -/
theorem stops_dropWhile
    (belongs : Char → Bool)
    (text : List Char) :
    Stops belongs (text.dropWhile belongs) := by
  intro character isHead
  have notBelongs := List.head?_dropWhile_not belongs text
  rw [isHead] at notBelongs
  exact notBelongs

theorem Stops.dropWhile_eq
    {belongs : Char → Bool}
    {text : List Char}
    (stops : Stops belongs text) :
    text.dropWhile belongs = text := by
  cases text with
  | nil =>
      rfl
  | cons first rest =>
      rw [stops_cons] at stops
      simp [stops]

theorem Stops.takeWhile_eq
    {belongs : Char → Bool}
    {text : List Char}
    (stops : Stops belongs text) :
    text.takeWhile belongs = [] := by
  cases text with
  | nil =>
      rfl
  | cons first rest =>
      rw [stops_cons] at stops
      simp [stops]

/--
The longest run of a class and the text behind it are the only way to cut a
text into characters of the class and a text that does not continue them.
-/
theorem longestRun_iff
    {belongs : Char → Bool}
    {text run rest : List Char} :
    text.takeWhile belongs = run ∧ text.dropWhile belongs = rest ↔
      text = run ++ rest ∧
        (∀ character ∈ run, belongs character = true) ∧
        Stops belongs rest := by
  constructor
  · rintro ⟨rfl, rfl⟩
    refine ⟨List.takeWhile_append_dropWhile.symm, ?_, stops_dropWhile belongs text⟩
    exact List.all_eq_true.mp List.all_takeWhile
  · rintro ⟨rfl, inside, stops⟩
    rw [List.takeWhile_append_of_pos inside, List.dropWhile_append_of_pos inside,
      stops.takeWhile_eq, stops.dropWhile_eq]
    exact ⟨List.append_nil run, rfl⟩

/-- Two cuts of one text into a run of a class and a text that stops it are the same cut. -/
theorem longestRun_unique
    {belongs : Char → Bool}
    {run otherRun rest otherRest : List Char}
    (same : run ++ rest = otherRun ++ otherRest)
    (inside : ∀ character ∈ run, belongs character = true)
    (otherInside : ∀ character ∈ otherRun, belongs character = true)
    (stops : Stops belongs rest)
    (otherStops : Stops belongs otherRest) :
    run = otherRun ∧ rest = otherRest := by
  have cut := longestRun_iff.mpr ⟨rfl, inside, stops⟩
  have otherCut := longestRun_iff.mpr ⟨same, otherInside, otherStops⟩
  exact ⟨cut.1.symm.trans otherCut.1, cut.2.symm.trans otherCut.2⟩

/-- A run of all characters but one is a text without this character. -/
theorem forall_bne_iff_not_mem
    {sign : Char}
    {text : List Char} :
    (∀ character ∈ text, (character != sign) = true) ↔ sign ∉ text := by
  constructor
  · intro inside member
    exact bne_iff_ne.mp (inside sign member) rfl
  · intro absent character member
    apply bne_iff_ne.mpr
    rintro rfl
    exact absent member

/-- A text begins with a given start exactly when the start can be cut off it. -/
theorem afterStart?_eq_some_iff
    {start text rest : List Char} :
    afterStart? start text = some rest ↔ text = start ++ rest := by
  induction start generalizing text with
  | nil =>
      simp [afterStart?]
  | cons expected start inductionHypothesis =>
      cases text with
      | nil =>
          simp [afterStart?]
      | cons character text =>
          by_cases same : expected = character
          · simp [afterStart?, same, inductionHypothesis]
          · simp [afterStart?, same, Ne.symm same]

/-! ## White space around a text -/

/-- Tables without a common interval have no common character. -/
theorem CodePointRanges.contains_eq_false_of_apart
    {ranges others : CodePointRanges}
    (apart :
      ∀ range ∈ ranges,
        ∀ other ∈ others,
          other.2 < range.1 ∨ range.2 < other.1)
    {character : Char}
    (inside : ranges.contains character = true) :
    others.contains character = false := by
  rw [contains, List.any_eq_true] at inside
  obtain ⟨range, member, inRange⟩ := inside
  rw [contains, List.any_eq_false]
  intro other otherMember inOther
  simp only [Bool.and_eq_true, Nat.ble_eq] at inRange inOther
  rcases apart range member other otherMember with before | behind <;>
    omega

/-- No printable ASCII character is white space. -/
theorem isWhiteSpace_eq_false_of_printable
    {character : Char}
    (aboveSpace : 0x20 < character.toNat)
    (ascii : character.toNat < 0x7F) :
    isWhiteSpace character = false := by
  rw [isWhiteSpace, CodePointRanges.contains, List.any_eq_false]
  intro range member
  simp only [whiteSpaceRanges, List.mem_cons, List.not_mem_nil, or_false] at member
  rcases member with rfl | rfl | rfl | rfl | rfl | rfl | rfl | rfl | rfl | rfl <;>
    simp only [Bool.and_eq_true, Nat.ble_eq] <;>
    omega

theorem stops_reverse_trim
    (text : List Char) :
    Stops isWhiteSpace (trim text).reverse := by
  rw [trim, trimEnd, List.reverse_reverse]
  exact stops_dropWhile isWhiteSpace _

/-- Behind the leading white space stands the trimmed text, and then white space only. -/
theorem trimStart_eq_trim_append
    (text : List Char) :
    ∃ trailing,
      trimStart text = trim text ++ trailing ∧
        ∀ character ∈ trailing, isWhiteSpace character = true := by
  refine ⟨((trimStart text).reverse.takeWhile isWhiteSpace).reverse, ?_, ?_⟩
  · rw [trim, trimEnd, ← List.reverse_append, List.takeWhile_append_dropWhile,
      List.reverse_reverse]
  · intro character member
    exact List.all_eq_true.mp List.all_takeWhile character (List.mem_reverse.mp member)

theorem stops_trim
    (text : List Char) :
    Stops isWhiteSpace (trim text) := by
  obtain ⟨trailing, shape, -⟩ := trimStart_eq_trim_append text
  have stops : Stops isWhiteSpace (trimStart text) :=
    stops_dropWhile isWhiteSpace text
  rw [shape] at stops
  exact stops.of_append

theorem mem_trimStart
    {text : List Char}
    {character : Char}
    (member : character ∈ text)
    (visible : isWhiteSpace character = false) :
    character ∈ trimStart text := by
  have split : text.takeWhile isWhiteSpace ++ trimStart text = text :=
    List.takeWhile_append_dropWhile
  rw [← split, List.mem_append] at member
  rcases member with inLeading | inRest
  · have white := List.all_eq_true.mp List.all_takeWhile character inLeading
    rw [visible] at white
    cases white
  · exact inRest

/-- Trimming takes no character away that can be seen. -/
theorem mem_trim
    {text : List Char}
    {character : Char}
    (member : character ∈ text)
    (visible : isWhiteSpace character = false) :
    character ∈ trim text := by
  obtain ⟨trailing, shape, trailingWhite⟩ := trimStart_eq_trim_append text
  have inRest := mem_trimStart member visible
  rw [shape, List.mem_append] at inRest
  rcases inRest with inTrimmed | inTrailing
  · exact inTrimmed
  · have white := trailingWhite character inTrailing
    rw [visible] at white
    cases white

/-- Trimming leaves nothing exactly of the texts of white space. -/
theorem trim_eq_nil_iff
    {text : List Char} :
    trim text = [] ↔ ∀ character ∈ text, isWhiteSpace character = true := by
  simp only [trim, trimEnd, List.reverse_eq_nil_iff, List.dropWhile_eq_nil_iff,
    List.mem_reverse]
  constructor
  · intro restWhite
    have stops := stops_dropWhile isWhiteSpace text
    cases shape : text.dropWhile isWhiteSpace with
    | nil =>
        exact List.dropWhile_eq_nil_iff.mp shape
    | cons first rest =>
        have firstWhite : isWhiteSpace first = true := by
          apply restWhite
          simp [trimStart, shape]
        rw [shape, stops_cons, firstWhite] at stops
        cases stops
  · intro white character member
    exact white character (List.dropWhile_subset isWhiteSpace member)

/-- A text without white space at either end is its own trimmed form. -/
theorem trim_eq_self
    {text : List Char}
    (startsVisible : Stops isWhiteSpace text)
    (endsVisible : Stops isWhiteSpace text.reverse) :
    trim text = text := by
  rw [trim, trimStart, startsVisible.dropWhile_eq, trimEnd, endsVisible.dropWhile_eq,
    List.reverse_reverse]

theorem trimEnd_append_of_white
    (text : List Char)
    {trailing : List Char}
    (white : ∀ character ∈ trailing, isWhiteSpace character = true) :
    trimEnd (text ++ trailing) = trimEnd text := by
  have reversedWhite : ∀ character ∈ trailing.reverse, isWhiteSpace character = true := by
    intro character member
    exact white character (List.mem_reverse.mp member)
  rw [trimEnd, trimEnd, List.reverse_append, List.dropWhile_append_of_pos reversedWhite]

/-- White space behind a text is trimmed away. -/
theorem trim_append_of_white
    (text : List Char)
    {trailing : List Char}
    (white : ∀ character ∈ trailing, isWhiteSpace character = true) :
    trim (text ++ trailing) = trim text := by
  rw [trim, trim, trimStart, trimStart, List.dropWhile_append]
  split
  · rename_i empty
    rw [List.isEmpty_iff.mp empty, List.dropWhile_eq_nil_iff.mpr white]
  · exact trimEnd_append_of_white _ white

/-- White space in front of a text is trimmed away. -/
theorem trim_white_append
    {leading : List Char}
    (white : ∀ character ∈ leading, isWhiteSpace character = true)
    (text : List Char) :
    trim (leading ++ text) = trim text := by
  rw [trim, trim, trimStart, trimStart, List.dropWhile_append_of_pos white]

/-- The text behind the leading white space is cut off in only one way. -/
theorem trimStart_eq_iff
    {text rest : List Char} :
    trimStart text = rest ↔
      ∃ leading,
        text = leading ++ rest ∧
          (∀ character ∈ leading, isWhiteSpace character = true) ∧
          Stops isWhiteSpace rest := by
  constructor
  · intro cut
    exact ⟨_, longestRun_iff.mp ⟨rfl, cut⟩⟩
  · rintro ⟨leading, shape⟩
    exact (longestRun_iff.mpr shape).2

/-- A text that starts visibly does not start in the white space in front of another one. -/
theorem isInfix_white_append_iff
    {piece leading : List Char}
    (startsVisible : Stops isWhiteSpace piece)
    (white : ∀ character ∈ leading, isWhiteSpace character = true)
    (text : List Char) :
    piece <:+: leading ++ text ↔ piece <:+: text := by
  cases piece with
  | nil =>
      simp
  | cons first rest =>
      have outside : first ∉ leading := by
        intro member
        rw [stops_cons, white first member] at startsVisible
        cases startsVisible
      rw [List.infix_append_iff]
      constructor
      · rintro (inLeading | inText | ⟨left, right, shape, inLeading, inText⟩)
        · exact absurd (inLeading.subset (by simp)) outside
        · exact inText
        · cases left with
          | nil =>
              rw [shape]
              exact inText.isInfix
          | cons start others =>
              obtain ⟨rfl, -⟩ := List.cons.inj shape
              exact absurd (inLeading.subset (by simp)) outside
      · exact fun inText => .inr (.inl inText)

/-- Trimming takes no occurrence away from a text without white space at its ends. -/
theorem isInfix_trim_iff
    {piece : List Char}
    (startsVisible : Stops isWhiteSpace piece)
    (endsVisible : Stops isWhiteSpace piece.reverse)
    (text : List Char) :
    piece <:+: trim text ↔ piece <:+: text := by
  obtain ⟨leading, shape, leadingWhite, -⟩ := trimStart_eq_iff.mp (rfl : trimStart text = _)
  obtain ⟨trailing, split, trailingWhite⟩ := trimStart_eq_trim_append text
  have reversedWhite : ∀ character ∈ trailing.reverse, isWhiteSpace character = true :=
    fun character member => trailingWhite character (List.mem_reverse.mp member)
  calc
    piece <:+: trim text ↔ piece.reverse <:+: (trim text).reverse :=
      List.reverse_infix.symm
    _ ↔ piece.reverse <:+: trailing.reverse ++ (trim text).reverse :=
      (isInfix_white_append_iff endsVisible reversedWhite _).symm
    _ ↔ piece <:+: trim text ++ trailing := by
      rw [← List.reverse_append, List.reverse_infix]
    _ ↔ piece <:+: leading ++ trimStart text := by
      rw [isInfix_white_append_iff startsVisible leadingWhite, split]
    _ ↔ piece <:+: text := by
      rw [← shape]

end MarkupLint
