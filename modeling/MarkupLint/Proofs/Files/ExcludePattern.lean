import MarkupLint.Files.ExcludePattern
import MarkupLint.Proofs.Text.SuffixSet

namespace MarkupLint

/-!
# What exclude patterns describe

The texts of a pattern by one rule for each way a part can be used, and the proof
that matching decides them.  The last section asks which patterns can tell the
place of a project: a pattern that stays below the root describes a path in a
folder only if it describes the rest of that path by itself.
-/

namespace PatternPiece

/-- Whether the part stands for texts of any length. -/
def isWildcard : PatternPiece → Bool
  | anyText => true
  | anyFolders => true
  | _ => false

/-- Whether the part stands for a single character other than a slash. -/
def avoidsSlash (piece : PatternPiece) : Bool :=
  !piece.isWildcard && !piece.accepts '/'

theorem isWildcard_eq_false_of_accepts
    {piece : PatternPiece}
    {character : Char}
    (accepted : piece.accepts character = true) :
    piece.isWildcard = false := by
  cases piece with
  | anyText =>
      cases accepted
  | anyFolders =>
      cases accepted
  | _ =>
      rfl

end PatternPiece

namespace ExcludePattern

/--
The texts that a pattern describes.  Folders at the end of a pattern stand for all
of the text; any others are left out or end at a slash.
-/
inductive Describes : ExcludePattern → List Char → Prop where
  | nil :
      Describes [] []
  | character
      {piece : PatternPiece}
      {pieces : ExcludePattern}
      {character : Char}
      {rest : List Char} :
      piece.accepts character = true →
      Describes pieces rest →
      Describes (piece :: pieces) (character :: rest)
  | text
      {pieces : ExcludePattern}
      {rest : List Char}
      (skipped : List Char) :
      Describes pieces rest →
      Describes (.anyText :: pieces) (skipped ++ rest)
  | allFolders
      {pieces : ExcludePattern}
      (text : List Char) :
      Describes pieces [] →
      Describes (.anyFolders :: pieces) text
  | noFolders
      {pieces : ExcludePattern}
      {text : List Char} :
      Describes pieces text →
      Describes (.anyFolders :: pieces) text
  | folders
      {pieces : ExcludePattern}
      {rest : List Char}
      (skipped : List Char) :
      Describes pieces rest →
      Describes (.anyFolders :: pieces) (skipped ++ '/' :: rest)

/-! ## Matching -/

theorem describes_nil_iff
    {text : List Char} :
    Describes [] text ↔ text = [] := by
  constructor
  · rintro ⟨⟩
    rfl
  · rintro rfl
    exact .nil

theorem describes_character_iff
    {piece : PatternPiece}
    {pieces : ExcludePattern}
    {text : List Char}
    (single : piece.isWildcard = false) :
    Describes (piece :: pieces) text ↔
      ∃ character rest,
        text = character :: rest ∧ piece.accepts character = true ∧ Describes pieces rest := by
  constructor
  · intro described
    cases described with
    | character accepted restDescribed =>
        exact ⟨_, _, rfl, accepted, restDescribed⟩
    | _ =>
        cases single
  · rintro ⟨character, rest, rfl, accepted, restDescribed⟩
    exact .character accepted restDescribed

theorem describes_anyText_iff
    {pieces : ExcludePattern}
    {text : List Char} :
    Describes (.anyText :: pieces) text ↔
      ∃ rest, rest <:+ text ∧ Describes pieces rest := by
  constructor
  · intro described
    cases described with
    | character accepted _ =>
        cases accepted
    | text skipped restDescribed =>
        exact ⟨_, List.suffix_append skipped _, restDescribed⟩
  · rintro ⟨rest, ⟨skipped, rfl⟩, restDescribed⟩
    exact .text skipped restDescribed

theorem describes_anyFolders_iff
    {pieces : ExcludePattern}
    {text : List Char} :
    Describes (.anyFolders :: pieces) text ↔
      Describes pieces [] ∨
        Describes pieces text ∨
        ∃ rest, '/' :: rest <:+ text ∧ Describes pieces rest := by
  constructor
  · intro described
    cases described with
    | character accepted _ =>
        cases accepted
    | allFolders _ endDescribed =>
        exact .inl endDescribed
    | noFolders wholeDescribed =>
        exact .inr (.inl wholeDescribed)
    | folders skipped restDescribed =>
        exact .inr (.inr ⟨_, List.suffix_append skipped _, restDescribed⟩)
  · rintro (endDescribed | wholeDescribed | ⟨rest, ⟨skipped, rfl⟩, restDescribed⟩)
    · exact .allFolders text endDescribed
    · exact .noFolders wholeDescribed
    · exact .folders skipped restDescribed

/-- The sets that matching works on decide which suffixes the parts left describe. -/
theorem decides_describedSuffixes
    (text : List Char)
    (pattern : ExcludePattern) :
    (describedSuffixes text pattern).Decides (Describes pattern) text := by
  induction pattern with
  | nil =>
      exact (SuffixSet.decides_onlyEmpty text).congr fun _ => describes_nil_iff.symm
  | cons piece pieces inductionHypothesis =>
      cases piece with
      | anyText =>
          apply (inductionHypothesis.afterItems fun _ => true).congr
          intro suffix
          rw [describes_anyText_iff]
          constructor
          · rintro ⟨skipped, rest, rfl, -, restDescribed⟩
            exact ⟨rest, List.suffix_append skipped rest, restDescribed⟩
          · rintro ⟨rest, ⟨skipped, rfl⟩, restDescribed⟩
            exact ⟨skipped, rest, rfl, by simp, restDescribed⟩
      | anyFolders =>
          rw [describedSuffixes]
          split
          · rename_i holdsEmpty
            have endDescribed : Describes pieces [] :=
              inductionHypothesis.holdsEmpty_iff.mp holdsEmpty
            apply inductionHypothesis.map_true.congr
            intro suffix
            exact iff_of_true trivial (.allFolders suffix endDescribed)
          · rename_i notHoldsEmpty
            have notEndDescribed : ¬ Describes pieces [] := by
              rwa [← inductionHypothesis.holdsEmpty_iff]
            apply (inductionHypothesis.union (inductionHypothesis.afterAny (· == '/'))).congr
            intro suffix
            rw [describes_anyFolders_iff, or_iff_right notEndDescribed]
            apply or_congr_right
            constructor
            · rintro ⟨skipped, slash, rest, rfl, isSlash, restDescribed⟩
              rw [eq_of_beq isSlash]
              exact ⟨rest, List.suffix_append skipped _, restDescribed⟩
            · rintro ⟨rest, ⟨skipped, rfl⟩, restDescribed⟩
              exact ⟨skipped, '/', rest, rfl, rfl, restDescribed⟩
      | _ =>
          exact (inductionHypothesis.afterItem _).congr
            fun _ => (describes_character_iff rfl).symm

theorem isMatch_iff_describes
    {pattern : ExcludePattern}
    {text : List Char} :
    isMatch pattern text = true ↔ Describes pattern text :=
  (decides_describedSuffixes text pattern).holdsWhole_iff

/-! ## Patterns that stay below the root -/

/--
Whether a pattern can only look at the part of a path below the root: it starts
with a character other than the slash of a full path, or the parts behind its
leading wildcards all stand for such characters.
-/
def staysBelowRoot (pattern : ExcludePattern) : Bool :=
  pattern.head?.all PatternPiece.avoidsSlash ||
    (pattern.dropWhile PatternPiece.isWildcard).all PatternPiece.avoidsSlash

theorem not_describes_slash_of_head
    {pattern : ExcludePattern}
    {rest : List Char}
    (startsBelow : pattern.head?.all PatternPiece.avoidsSlash = true) :
    ¬ Describes pattern ('/' :: rest) := by
  intro described
  cases pattern with
  | nil =>
      cases described
  | cons piece pieces =>
      obtain ⟨single, refused⟩ :
          piece.isWildcard = false ∧ piece.accepts '/' = false := by
        simpa [PatternPiece.avoidsSlash] using startsBelow
      obtain ⟨_, _, ⟨rfl, rfl⟩, accepted, -⟩ := (describes_character_iff single).mp described
      rw [refused] at accepted
      cases accepted

/-- Parts that stand for single characters other than slashes describe no slash. -/
theorem Describes.slash_not_mem
    {pattern : ExcludePattern}
    {text : List Char}
    (described : Describes pattern text)
    (avoided : pattern.all PatternPiece.avoidsSlash = true) :
    '/' ∉ text := by
  induction described with
  | nil =>
      simp
  | @character piece _ character _ accepted _ inductionHypothesis =>
      rw [List.all_cons, Bool.and_eq_true] at avoided
      obtain ⟨pieceAvoids, restAvoids⟩ := avoided
      have notSlash : '/' ≠ character := by
        rintro rfl
        simp [PatternPiece.avoidsSlash, accepted] at pieceAvoids
      exact List.not_mem_cons_of_ne_of_not_mem notSlash (inductionHypothesis restAvoids)
  | _ =>
      cases avoided

theorem suffix_of_slash_not_mem
    {text above path : List Char}
    (suffix : text <:+ above ++ '/' :: path)
    (slashFree : '/' ∉ text) :
    text <:+ path := by
  rcases List.suffix_or_suffix_of_suffix suffix (List.suffix_append above _) with
    inPath | longer
  · rcases List.suffix_cons_iff.mp inPath with rfl | below
    · exact absurd List.mem_cons_self slashFree
    · exact below
  · exact absurd (longer.subset List.mem_cons_self) slashFree

/--
A part of a full path that such a pattern describes either lies below the root, or
the pattern describes everything below the root too.
-/
theorem Describes.suffix_or_below
    {pattern : ExcludePattern}
    {text above path : List Char}
    (described : Describes pattern text)
    (endsBelow :
      (pattern.dropWhile PatternPiece.isWildcard).all PatternPiece.avoidsSlash = true)
    (suffix : text <:+ above ++ '/' :: path) :
    text <:+ path ∨ Describes pattern path := by
  induction described with
  | nil =>
      exact .inl List.nil_suffix
  | @character piece pieces character rest accepted restDescribed _ =>
      rw [List.dropWhile_cons_of_neg
        (by simp [PatternPiece.isWildcard_eq_false_of_accepts accepted])] at endsBelow
      exact .inl (suffix_of_slash_not_mem suffix
        ((Describes.character accepted restDescribed).slash_not_mem endsBelow))
  | text skipped restDescribed inductionHypothesis =>
      rcases inductionHypothesis endsBelow ((List.suffix_append skipped _).trans suffix) with
        below | pathDescribed
      · exact .inr (describes_anyText_iff.mpr ⟨_, below, restDescribed⟩)
      · exact .inr (.text [] pathDescribed)
  | allFolders _ endDescribed _ =>
      exact .inr (.allFolders path endDescribed)
  | noFolders _ inductionHypothesis =>
      exact (inductionHypothesis endsBelow suffix).imp_right .noFolders
  | @folders pieces rest skipped restDescribed inductionHypothesis =>
      have slashSuffix : '/' :: rest <:+ above ++ '/' :: path :=
        (List.suffix_append skipped _).trans suffix
      rcases inductionHypothesis endsBelow ((List.suffix_cons _ _).trans slashSuffix) with
        below | pathDescribed
      · rcases Nat.lt_or_ge rest.length path.length with shorter | longer
        · have slashBelow : '/' :: rest <:+ path :=
            List.suffix_of_suffix_length_le slashSuffix
              ((List.suffix_cons '/' path).trans (List.suffix_append above _)) shorter
          exact .inr (describes_anyFolders_iff.mpr (.inr (.inr ⟨rest, slashBelow, restDescribed⟩)))
        · rw [below.eq_of_length_le longer] at restDescribed
          exact .inr (.noFolders restDescribed)
      · exact .inr (.noFolders pathDescribed)

/--
A pattern that stays below the root describes a full path only if it describes the
path below the root.
-/
theorem Describes.below_root
    {pattern : ExcludePattern}
    {above path : List Char}
    (described : Describes pattern (above ++ '/' :: path))
    (absolute : (above ++ '/' :: path).head? = some '/')
    (stays : pattern.staysBelowRoot = true) :
    Describes pattern path := by
  rcases Bool.or_eq_true_iff.mp stays with startsBelow | endsBelow
  · obtain ⟨rest, shape⟩ := List.head?_eq_some_iff.mp absolute
    rw [shape] at described
    exact absurd described (not_describes_slash_of_head startsBelow)
  · rcases described.suffix_or_below endsBelow (List.suffix_refl _) with inPath | pathDescribed
    · have fits := inPath.length_le
      simp only [List.length_append, List.length_cons] at fits
      omega
    · exact pathDescribed

end ExcludePattern

end MarkupLint
