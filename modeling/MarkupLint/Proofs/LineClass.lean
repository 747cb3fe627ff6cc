import MarkupLint.LineClass
import MarkupLint.Proofs.Text.Run
import MarkupLint.Proofs.Text.Search

namespace MarkupLint

/-!
# What the classes of lines contain

The predicates on lines, restated as descriptions of the content of a line.
-/

/-- A non-empty run is cut off as a whole. -/
theorem afterRun?_eq_some_iff
    {belongs : Char → Bool}
    {text rest : List Char} :
    afterRun? belongs text = some rest ↔
      ∃ run,
        text = run ++ rest ∧
          run ≠ [] ∧
          (∀ character ∈ run, belongs character = true) ∧
          Stops belongs rest := by
  cases text with
  | nil =>
      constructor
      · intro impossible
        cases impossible
      · rintro ⟨run, shape, nonEmpty, -⟩
        exact (nonEmpty (List.append_eq_nil_iff.mp shape.symm).1).elim
  | cons first tail =>
      by_cases isFirst : belongs first = true
      · rw [afterRun?, if_pos isFirst, Option.some.injEq]
        constructor
        · intro cut
          obtain ⟨shape, inside, stops⟩ :=
            longestRun_iff.mp (⟨rfl, cut⟩ : tail.takeWhile belongs = _ ∧ _)
          refine ⟨first :: tail.takeWhile belongs, ?_, List.cons_ne_nil _ _, ?_, stops⟩
          · rw [List.cons_append, ← shape]
          · intro character member
            rcases List.mem_cons.mp member with rfl | inTail
            · exact isFirst
            · exact inside character inTail
        · rintro ⟨run, shape, nonEmpty, inside, stops⟩
          obtain ⟨start, others, rfl⟩ := List.exists_cons_of_ne_nil nonEmpty
          rw [List.cons_append] at shape
          obtain ⟨rfl, tailShape⟩ := List.cons.inj shape
          have othersInside : ∀ character ∈ others, belongs character = true :=
            fun character member => inside character (by simp [member])
          exact (longestRun_iff.mpr ⟨tailShape, othersInside, stops⟩).2
      · rw [afterRun?, if_neg isFirst]
        constructor
        · intro impossible
          cases impossible
        · rintro ⟨run, shape, nonEmpty, inside, -⟩
          obtain ⟨start, others, rfl⟩ := List.exists_cons_of_ne_nil nonEmpty
          rw [List.cons_append] at shape
          obtain ⟨rfl, -⟩ := List.cons.inj shape
          exact (isFirst (inside first (by simp))).elim

namespace Line

/-- A text that consists of three or more copies of one of the characters for titles. -/
def IsAdornment
    (text : List Char) : Prop :=
  ∃ character ∈ "=-~*.^+#\"'_`".toList,
    ∃ count,
      3 ≤ count ∧ text = List.replicate count character

theorem adornments_eq :
    adornments = "=-~*.^+#\"'_`".toList := by
  rfl

/-- Every sign of a title takes one byte. -/
theorem length_encode_replicate
    {sign : Char}
    (isSign : sign ∈ adornments)
    (count : Nat) :
    (Utf8.encode (List.replicate count sign)).length = count := by
  have allAscii : adornments.all (fun sign => decide (sign.toNat < 0x80)) = true := by
    decide
  have signAscii : sign.toNat < 0x80 := by
    simpa using List.all_eq_true.mp allAscii sign isSign
  simp [Utf8.encode, Utf8.encodeCharacter, signAscii, List.flatMap_replicate]

/-- The length of a title may be counted in characters. -/
theorem isHeadline_eq
    (line : Line) :
    line.isHeadline =
      match line.content with
      | [] => false
      | first :: rest =>
          adornments.contains first && Nat.ble 2 rest.length && rest.all (· == first) := by
  rw [isHeadline]
  cases line.content with
  | nil =>
      rfl
  | cons first rest =>
      simp only
      by_cases isSign : first ∈ adornments
      · by_cases same : ∀ character ∈ rest, character = first
        · have shape : first :: rest = List.replicate (rest.length + 1) first := by
            rw [List.replicate_succ, ← List.eq_replicate_iff.mpr ⟨rfl, same⟩]
          rw [shape, length_encode_replicate isSign]
          rfl
        · have differs : rest.all (· == first) = false := by
            simpa using same
          rw [differs, Bool.and_false, Bool.and_false]
      · have noSign : adornments.contains first = false := by
          simpa using isSign
        rw [noSign, Bool.false_and, Bool.false_and, Bool.false_and, Bool.false_and]

/-- A title is recognised by its content, which is an adornment. -/
theorem isHeadline_iff
    {line : Line} :
    line.isHeadline = true ↔ IsAdornment line.content := by
  rw [isHeadline_eq, IsAdornment, ← adornments_eq]
  cases line.content with
  | nil =>
      constructor
      · intro impossible
        cases impossible
      · rintro ⟨character, -, count, long, shape⟩
        have short : 0 = count := by
          simpa using congrArg List.length shape
        omega
  | cons first rest =>
      simp only [Bool.and_eq_true, List.contains_iff_mem, Nat.ble_eq, List.all_eq_true,
        beq_iff_eq]
      constructor
      · rintro ⟨⟨isAdornment, long⟩, same⟩
        refine ⟨first, isAdornment, rest.length + 1, by omega, ?_⟩
        rw [List.replicate_succ, ← List.eq_replicate_iff.mpr ⟨rfl, same⟩]
      · rintro ⟨character, isAdornment, count, long, shape⟩
        obtain ⟨fewer, rfl⟩ : ∃ fewer, count = fewer + 1 :=
          ⟨count - 1, by omega⟩
        rw [List.replicate_succ] at shape
        obtain ⟨rfl, rfl⟩ := List.cons.inj shape
        refine ⟨⟨isAdornment, ?_⟩, ?_⟩
        · rw [List.length_replicate]
          omega
        · intro character member
          exact List.eq_of_mem_replicate member

/-- A non-empty run of one character. -/
def isRunOf (character : Char) (text : List Char) : Bool :=
  !text.isEmpty && text.all (· == character)

/-- One column of a table border. -/
def isBorderColumn (text : List Char) : Bool :=
  isRunOf '=' text || isRunOf '-' text

theorem isBorderColumn_cons
    (first : Char)
    (rest : List Char) :
    isBorderColumn (first :: rest) =
      ((first == '=' || first == '-') && rest.all (· == first)) := by
  by_cases isEqual : first = '='
  · subst isEqual
    simp [isBorderColumn, isRunOf]
  · by_cases isDash : first = '-'
    · subst isDash
      simp [isBorderColumn, isRunOf]
    · rw [isBorderColumn, isRunOf, isRunOf, List.all_cons, List.all_cons, beq_false_of_ne isEqual,
        beq_false_of_ne isDash]
      rfl

/--
A border may be cut at every space instead of being read column by column.  The
induction carries the rest of a column along: the first piece of it goes on with the sign.
-/
theorem isBorderText_eq_all_splitAtEach
    (text : List Char) :
    isBorderText text = (splitAtEach ' ' text).all isBorderColumn ∧
      ∀ sign piece pieces,
        splitAtEach ' ' text = piece :: pieces →
        isColumnRest sign text = (piece.all (· == sign) && pieces.all isBorderColumn) := by
  induction text with
  | nil =>
      refine ⟨rfl, ?_⟩
      intro sign piece pieces shape
      cases shape
      rfl
  | cons first rest inductionHypothesis =>
      obtain ⟨isBorder, isRest⟩ := inductionHypothesis
      obtain ⟨piece, pieces, shape⟩ := exists_splitAtEach_eq_cons ' ' rest
      rw [isBorderText, isRest first piece pieces shape, splitAtEach, shape]
      by_cases isSpace : first = ' '
      · subst isSpace
        refine ⟨rfl, ?_⟩
        rintro sign _ _ ⟨rfl, rfl⟩
        rw [isColumnRest, if_pos rfl, isBorder, shape]
        rfl
      · simp only [if_neg isSpace]
        refine ⟨?_, ?_⟩
        · rw [List.all_cons, isBorderColumn_cons, Bool.and_assoc]
        · rintro sign _ _ ⟨rfl, rfl⟩
          rw [isColumnRest, if_neg isSpace, isRest sign piece pieces shape, List.all_cons,
            Bool.and_assoc]

/-- A border is told by cutting it at every space. -/
theorem isTable_eq
    (line : Line) :
    line.isTable = (splitAtEach ' ' line.content).all isBorderColumn :=
  (isBorderText_eq_all_splitAtEach line.content).1

end Line

end MarkupLint
