import MarkupLint.Files.Path
import MarkupLint.Proofs.Text.Search
import MarkupLint.Proofs.Text.Utf8

namespace MarkupLint

/-!
# The names of a path

A path below a base has the names of the base and then its own.  Names that are
written down as a path are found again by reading it.  A path that is a text can be
split at its slashes as a text or as bytes, with the same pieces.
-/

namespace Path

/--
A name that leads somewhere: it is not empty, does not stand for the folder it is
looked up in, and is no path of several names.
-/
def IsName
    (name : FileName) : Prop :=
  name.bytes ≠ [] ∧ name.bytes ≠ [FileName.dot] ∧ slash ∉ name.bytes

instance :
    DecidablePred IsName :=
  fun name =>
    inferInstanceAs
      (Decidable (name.bytes ≠ [] ∧ name.bytes ≠ [FileName.dot] ∧ slash ∉ name.bytes))

theorem isIdle_of_isName
    {name : FileName}
    (isName : IsName name) :
    name.isIdle = false := by
  simp [FileName.isIdle, isName.1, isName.2.1]

/-- A path is made absolute below the working directory. -/
theorem from?_some
    (workingDirectory path : Path) :
    from? (some workingDirectory) path = some (workingDirectory.join path) := by
  unfold from? join
  cases path.isAbsolute <;> simp

/-- The names on both sides of a slash are read on their own. -/
theorem names_slash
    (before after : List UInt8) :
    names ⟨before ++ slash :: after⟩ = names ⟨before⟩ ++ names ⟨after⟩ := by
  simp only [names, pieces, splitAtEach_append_separator, List.map_append, List.filter_append]

theorem names_empty :
    names ⟨[]⟩ = [] := by
  decide

/--
A relative path adds its names to those of its base.  A slash at the end of the base
opens an empty piece, which is no name.
-/
theorem names_join
    (base : Path)
    {path : Path}
    (relative : path.isAbsolute = false) :
    (base.join path).names = base.names ++ path.names := by
  cases base with
  | mk bytes =>
      unfold join
      rw [relative, Bool.false_or]
      by_cases empty : bytes = []
      · rw [empty, List.isEmpty_nil, if_pos rfl, names_empty, List.nil_append]
      · rw [if_neg (by simpa using empty)]
        by_cases endsInSlash : bytes.getLast? = some slash
        · obtain ⟨above, shape⟩ := List.getLast?_eq_some_iff.mp endsInSlash
          have joined : bytes ++ path.bytes = above ++ slash :: path.bytes := by
            rw [shape, List.append_assoc, List.singleton_append]
          rw [if_pos endsInSlash, joined, names_slash, shape, names_slash, names_empty,
            List.append_nil]
        · rw [if_neg endsInSlash, names_slash]

theorem pieces_ofNames
    {pieces : List FileName}
    (notEmpty : pieces ≠ [])
    (areNames : ∀ name ∈ pieces, IsName name) :
    (ofNames pieces).pieces = pieces := by
  have noSlash : ∀ piece ∈ pieces.map FileName.bytes, slash ∉ piece := by
    intro piece member
    obtain ⟨name, isPiece, rfl⟩ := List.mem_map.mp member
    exact (areNames name isPiece).2.2
  rw [Path.pieces, ofNames, splitAtEach_joinWith (by simpa using notEmpty) noSlash,
    List.map_map]
  simp [Function.comp_def]

theorem names_ofNames
    {pieces : List FileName}
    (areNames : ∀ name ∈ pieces, IsName name) :
    (ofNames pieces).names = pieces := by
  cases pieces with
  | nil =>
      exact names_empty
  | cons name others =>
      rw [names, pieces_ofNames (by simp) areNames, List.filter_eq_self]
      intro piece member
      simp [isIdle_of_isName (areNames piece member)]

theorem isAbsolute_ofNames
    {pieces : List FileName}
    (areNames : ∀ name ∈ pieces, IsName name) :
    (ofNames pieces).isAbsolute = false := by
  cases pieces with
  | nil =>
      rfl
  | cons name others =>
      obtain ⟨notEmpty, -, noSlash⟩ := areNames name (by simp)
      cases shape : name.bytes with
      | nil =>
          exact absurd shape notEmpty
      | cons first rest =>
          have notSlash : first ≠ slash := by
            rintro rfl
            exact noSlash (by simp [shape])
          cases others <;>
            simp [isAbsolute, ofNames, joinWith, shape, notSlash]

/-- A path below a base has the names of the base and then those that lead further down. -/
theorem names_below
    (base : Path)
    {further : List FileName}
    (areNames : ∀ name ∈ further, IsName name) :
    (base.below further).names = base.names ++ further := by
  cases further with
  | nil =>
      rw [List.append_nil]
      rfl
  | cons name others =>
      rw [below, List.isEmpty_cons, if_neg Bool.false_ne_true,
        names_join base (isAbsolute_ofNames areNames), names_ofNames areNames]

/-- The text of a path is the one whose bytes it has. -/
theorem text?_eq_some_iff
    {path : Path}
    {text : List Char} :
    path.text? = some text ↔ path = ofText text := by
  cases path with
  | mk bytes =>
      rw [text?, Utf8.decode?_eq_some_iff, ofText, mk.injEq]

/-- A slash among the bytes of a text is one in the text. -/
theorem exists_of_ofText_slash
    {text : List Char}
    {before after : List UInt8}
    (spells : (ofText text).bytes = before ++ slash :: after) :
    ∃ front back,
      text = front ++ '/' :: back ∧
        before = Utf8.encode front ∧
        after = Utf8.encode back :=
  Utf8.exists_of_encode_eq_append_ascii (by decide) spells

theorem head?_of_isAbsolute_ofText
    {text : List Char}
    (absolute : (ofText text).isAbsolute = true) :
    text.head? = some '/' := by
  obtain ⟨rest, shape⟩ : ∃ rest, (ofText text).bytes = slash :: rest := by
    simpa [isAbsolute, List.head?_eq_some_iff] using absolute
  obtain ⟨front, back, rfl, noBytes, -⟩ :=
    exists_of_ofText_slash (shape.trans (List.nil_append _).symm)
  have isEmpty := Utf8.decode?_encode front
  rw [← noBytes] at isEmpty
  cases isEmpty
  rfl

end Path

end MarkupLint
