import MarkupLint.Text.Utf8
import MarkupLint.Proofs.LineClass.Structure

namespace MarkupLint

/-!
# Table borders and titles

A table border is built up column by column, with a single space between two
columns.  `IsBorder` follows this construction, and a border can equally be told
by cutting it at every space.

The adornment of a title is a run of one sign.  All signs are ASCII characters,
so that it makes no difference whether its length is counted in characters or
in bytes.

A line is both exactly when it is a single column of three or more signs.
-/

/-- One column of a border: the sign `=` or the sign `-`, once or more. -/
def IsColumn
    (text : List Char) : Prop :=
  ∃ count,
    1 ≤ count ∧ (text = List.replicate count '=' ∨ text = List.replicate count '-')

/-- A table border: a column, or a column with a space and a border behind it. -/
inductive IsBorder : List Char → Prop
  | column
      {text : List Char}
      (isColumn : IsColumn text) :
      IsBorder text
  | beside
      {first rest : List Char}
      (isColumn : IsColumn first)
      (isBorder : IsBorder rest) :
      IsBorder (first ++ ' ' :: rest)

/-! ## Columns and the cut at every space -/

/-- Cutting at each separator is the split of lists in the standard library. -/
theorem splitAtEach_eq_splitOn
    (separator : Char)
    (text : List Char) :
    splitAtEach separator text = text.splitOn separator := by
  induction text with
  | nil =>
      rfl
  | cons first rest inductionHypothesis =>
      obtain ⟨piece, pieces, shape⟩ := exists_splitAtEach_eq_cons separator rest
      rw [List.splitOn_eq_splitOnP] at inductionHypothesis ⊢
      rw [List.splitOnP_cons_eq_if_modifyHead, ← inductionHypothesis, splitAtEach, shape]
      by_cases isSeparator : first = separator <;>
        simp [isSeparator]

theorem isRunOf_iff
    {sign : Char}
    {text : List Char} :
    Line.isRunOf sign text = true ↔
      ∃ count, 1 ≤ count ∧ text = List.replicate count sign := by
  simp only [Line.isRunOf, Bool.and_eq_true, Bool.not_eq_true', List.isEmpty_eq_false_iff,
    List.all_eq_true, beq_iff_eq]
  constructor
  · rintro ⟨nonEmpty, same⟩
    exact ⟨text.length, List.length_pos_iff.mpr nonEmpty, List.eq_replicate_iff.mpr ⟨rfl, same⟩⟩
  · rintro ⟨count, positive, rfl⟩
    refine ⟨?_, fun character member => List.eq_of_mem_replicate member⟩
    rw [Ne, List.replicate_eq_nil_iff]
    omega

theorem isBorderColumn_iff
    {text : List Char} :
    Line.isBorderColumn text = true ↔ IsColumn text := by
  rw [Line.isBorderColumn, Bool.or_eq_true, isRunOf_iff, isRunOf_iff, IsColumn]
  simp only [and_or_left, exists_or]

theorem IsColumn.space_not_mem
    {text : List Char}
    (isColumn : IsColumn text) :
    ' ' ∉ text := by
  intro member
  obtain ⟨count, -, rfl | rfl⟩ := isColumn
  · exact absurd (List.eq_of_mem_replicate member) (by decide)
  · exact absurd (List.eq_of_mem_replicate member) (by decide)

/-- Columns with single spaces between them make a border. -/
theorem isBorder_intercalate
    {columns : List (List Char)}
    (notEmpty : columns ≠ [])
    (areColumns : ∀ column ∈ columns, IsColumn column) :
    IsBorder ([' '].intercalate columns) := by
  induction columns with
  | nil =>
      exact absurd rfl notEmpty
  | cons first rest inductionHypothesis =>
      have firstColumn := areColumns first (by simp)
      cases rest with
      | nil =>
          rw [List.intercalate_singleton]
          exact .column firstColumn
      | cons second others =>
          have restBorder :=
            inductionHypothesis (by simp) fun column member => areColumns column (by simp [member])
          rw [List.intercalate_cons_cons, List.append_assoc]
          exact .beside firstColumn restBorder

/-- A text is a border exactly when the spaces cut it into columns. -/
theorem isBorder_iff_splitOn
    {text : List Char} :
    IsBorder text ↔ ∀ piece ∈ text.splitOn ' ', IsColumn piece := by
  constructor
  · intro isBorder
    rw [← splitAtEach_eq_splitOn]
    induction isBorder with
    | column isColumn =>
        rw [splitAtEach_of_not_mem isColumn.space_not_mem]
        simpa using isColumn
    | beside isColumn isBorder inductionHypothesis =>
        rw [splitAtEach_append_separator, splitAtEach_of_not_mem isColumn.space_not_mem]
        simpa using ⟨isColumn, inductionHypothesis⟩
  · intro areColumns
    have joined : [' '].intercalate (text.splitOn ' ') = text :=
      List.intercalate_splitOn ' '
    rw [← joined]
    exact isBorder_intercalate (List.splitOn_ne_nil ' ' text) areColumns

namespace Line

theorem isTable_iff_splitOn
    {line : Line} :
    line.isTable = true ↔ ∀ piece ∈ line.content.splitOn ' ', IsColumn piece := by
  rw [isTable_eq, List.all_eq_true, splitAtEach_eq_splitOn]
  simp only [isBorderColumn_iff]

theorem isTable_iff_isBorder
    {line : Line} :
    line.isTable = true ↔ IsBorder line.content := by
  rw [isTable_iff_splitOn, isBorder_iff_splitOn]

end Line

/-! ## The length of an adornment -/

namespace Line

/-- A title may be told by the number of its bytes. -/
theorem isHeadline_iff_bytes
    {line : Line} :
    line.isHeadline = true ↔
      ∃ first rest,
        line.content = first :: rest ∧
          first ∈ adornments ∧
          3 ≤ (Utf8.encode line.content).length ∧
          ∀ character ∈ rest, character = first := by
  cases shape : line.content with
  | nil =>
      simp [isHeadline, shape]
  | cons first rest =>
      simp [isHeadline, shape, and_assoc]

/-! ## Lines that are both -/

/-- A border that is a title is one column of at least three signs. -/
theorem isTable_and_isHeadline_iff
    {line : Line} :
    line.isTable = true ∧ line.isHeadline = true ↔
      ∃ count,
        3 ≤ count ∧
          (line.content = List.replicate count '=' ∨ line.content = List.replicate count '-') := by
  constructor
  · rintro ⟨isTable, isHeadline⟩
    obtain ⟨sign, -, count, long, shape⟩ := isHeadline_iff.mp isHeadline
    obtain ⟨⟨first, rest, starts, isSign⟩, -⟩ := content_of_isTable isTable
    have same : first = sign := by
      apply List.eq_of_mem_replicate
      rw [← shape, starts]
      simp
    subst same
    refine ⟨count, long, ?_⟩
    rcases isSign with rfl | rfl
    · exact .inl shape
    · exact .inr shape
  · rintro ⟨count, long, shape⟩
    constructor
    · exact isTable_iff_isBorder.mpr (.column ⟨count, by omega, shape⟩)
    · apply isHeadline_iff.mpr
      rcases shape with equals | dashes
      · exact ⟨'=', by decide, count, long, equals⟩
      · exact ⟨'-', by decide, count, long, dashes⟩

/--
A line is a table border exactly when the spaces cut its content into columns, and
so exactly when columns with single spaces between them build it up.  It is a title
exactly when its content is one sign three times or more, in characters or in bytes.
It is both exactly when it is one column of at least three signs.
-/
theorem borders_and_titles_iff
    (line : Line) :
    (line.isTable = true ↔
      ∀ piece ∈ (trim line.text).splitOn ' ',
        ∃ count,
          1 ≤ count ∧ (piece = List.replicate count '=' ∨ piece = List.replicate count '-')) ∧
      (line.isTable = true ↔ IsBorder (trim line.text)) ∧
      (line.isHeadline = true ↔
        ∃ sign ∈ "=-~*.^+#\"'_`".toList,
          ∃ count,
            3 ≤ count ∧ trim line.text = List.replicate count sign) ∧
      (line.isHeadline = true ↔
        ∃ first rest,
          trim line.text = first :: rest ∧
            first ∈ "=-~*.^+#\"'_`".toList ∧
            3 ≤ (Utf8.encode (trim line.text)).length ∧
            ∀ character ∈ rest, character = first) ∧
      (line.isTable = true ∧ line.isHeadline = true ↔
        ∃ count,
          3 ≤ count ∧
            (trim line.text = List.replicate count '=' ∨
              trim line.text = List.replicate count '-')) :=
  ⟨isTable_iff_splitOn, isTable_iff_isBorder, isHeadline_iff, isHeadline_iff_bytes,
    isTable_and_isHeadline_iff⟩

/-- Two columns, one column that is also a title, and a title that is too short. -/
theorem borders_and_titles_iff_at_columns :
    (ofString "\t=== -\r").isTable = true ∧
      IsBorder "=== -".toList ∧
      (ofString " --- ").isTable = true ∧
      (ofString " --- ").isHeadline = true ∧
      (∃ count,
        3 ≤ count ∧
          ("---".toList = List.replicate count '=' ∨ "---".toList = List.replicate count '-')) ∧
      (ofString "~~").isHeadline = false ∧
      ¬ ∃ sign ∈ "=-~*.^+#\"'_`".toList,
        ∃ count,
          3 ≤ count ∧ "~~".toList = List.replicate count sign := by
  have twoColumns : (ofString "\t=== -\r").isTable = true := by
    decide
  have oneColumn : (ofString " --- ").isTable = true := by
    decide
  have isTitle : (ofString " --- ").isHeadline = true := by
    decide
  have tooShort : (ofString "~~").isHeadline = false := by
    decide
  refine ⟨twoColumns, (borders_and_titles_iff _).2.1.mp twoColumns, oneColumn, isTitle,
    (borders_and_titles_iff _).2.2.2.2.mp ⟨oneColumn, isTitle⟩, tooShort, ?_⟩
  intro isTitleText
  have isHeadline := (borders_and_titles_iff (ofString "~~")).2.2.1.mpr isTitleText
  rw [tooShort] at isHeadline
  cases isHeadline

end Line

end MarkupLint
