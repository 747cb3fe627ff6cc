import MarkupLint.Proofs.Configuration
import MarkupLint.Proofs.Files.ExcludePattern
import MarkupLint.Proofs.Files.Path

namespace MarkupLint

/-!
# Exclusion and the place of a project

A file is excluded by its path below the root or by its full path.  The second can
tell where the project lies; the verdict does not depend on that place as long as
every pattern stays below the root.
-/

namespace Path

/-- A relative path below an absolute base stands behind a slash. -/
theorem join_of_isAbsolute
    {base path : Path}
    (absolute : base.isAbsolute = true)
    (relative : path.isAbsolute = false) :
    (base.join path).isAbsolute = true ∧
      ∃ above, (base.join path).bytes = above ++ slash :: path.bytes := by
  obtain ⟨rest, shape⟩ : ∃ rest, base.bytes = slash :: rest := by
    simpa [isAbsolute, List.head?_eq_some_iff] using absolute
  have notEmpty : base.bytes.isEmpty = false := by
    rw [shape]
    rfl
  simp only [join, relative, notEmpty, Bool.or_self, Bool.false_eq_true, ↓reduceIte]
  split
  · rename_i endsInSlash
    obtain ⟨above, baseShape⟩ := List.getLast?_eq_some_iff.mp endsInSlash
    refine ⟨?_, above, by simp [baseShape]⟩
    simp [isAbsolute, shape]
  · refine ⟨?_, base.bytes, rfl⟩
    simp [isAbsolute, shape]

end Path

namespace ExcludePattern

theorem isPathMatch_iff
    {pattern : ExcludePattern}
    {path : Path} :
    pattern.isPathMatch path = true ↔ ∃ text, path = .ofText text ∧ pattern.Describes text := by
  simp only [isPathMatch, Option.any_eq_true, Path.text?_eq_some_iff, isMatch_iff_describes]

end ExcludePattern

namespace Analyzer

/-- Whether the path is a text that one of the patterns describes. -/
def Describes
    (analyzer : Analyzer)
    (path : Path) : Prop :=
  ∃ pattern ∈ analyzer.exclude, ∃ text, path = .ofText text ∧ pattern.Describes text

theorem describes_congr
    {analyzer other : Analyzer}
    {path : Path}
    (samePatterns : analyzer.exclude = other.exclude) :
    analyzer.Describes path ↔ other.Describes path := by
  rw [Describes, Describes, samePatterns]

theorem label_of_ne_nil
    (analyzer : Analyzer)
    {names : List FileName}
    (named : names ≠ []) :
    analyzer.label names = Path.ofNames names := by
  cases names with
  | nil =>
      exact absurd rfl named
  | cons name others =>
      rfl

/-- A file is excluded by one of its two paths. -/
theorem isExcluded_iff_describes
    {analyzer : Analyzer}
    {names : List FileName}
    (named : names ≠ []) :
    analyzer.isExcluded names = true ↔
      analyzer.Describes (Path.ofNames names) ∨
        analyzer.Describes (analyzer.fullPath names) := by
  rw [← analyzer.label_of_ne_nil named]
  simp only [isExcluded, List.any_eq_true, Bool.or_eq_true,
    ExcludePattern.isPathMatch_iff, Describes, and_or_left, exists_or]

/-- The patterns come from the texts given and from the configuration alone. -/
theorem exclude_eq_of_build
    {workingDirectory otherDirectory : Option Path}
    {root otherRoot : Option Path}
    {rules otherRules : List Rule}
    {exclude : List String}
    {config : Config}
    {analyzer other : Analyzer}
    (built : build workingDirectory root rules exclude config = .ok analyzer)
    (otherBuilt : build otherDirectory otherRoot otherRules exclude config = .ok other) :
    analyzer.exclude = other.exclude := by
  obtain ⟨_, patterns, -, readable, rfl⟩ := build_eq_ok_iff.mp built
  obtain ⟨_, otherPatterns, -, otherReadable, rfl⟩ := build_eq_ok_iff.mp otherBuilt
  exact Except.ok.inj (readable.symm.trans otherReadable)

/-- Patterns that stay below the root describe a full path by its end. -/
theorem describes_of_describes_fullPath
    {analyzer : Analyzer}
    {names : List FileName}
    (stays : ∀ pattern ∈ analyzer.exclude, pattern.staysBelowRoot = true)
    (absolute : analyzer.root.isAbsolute = true)
    (named : names ≠ [])
    (relative : (Path.ofNames names).isAbsolute = false)
    (described : analyzer.Describes (analyzer.fullPath names)) :
    analyzer.Describes (Path.ofNames names) := by
  obtain ⟨pattern, member, text, isText, fullDescribed⟩ := described
  obtain ⟨joinedAbsolute, above, shape⟩ := Path.join_of_isAbsolute absolute relative
  have full : analyzer.fullPath names = analyzer.root.join (Path.ofNames names) :=
    if_neg (by simpa using named)
  rw [← full, isText] at joinedAbsolute shape
  have startsWithSlash := Path.head?_of_isAbsolute_ofText joinedAbsolute
  obtain ⟨front, back, rfl, -, isBack⟩ := Path.exists_of_ofText_slash shape
  exact ⟨pattern, member, back, congrArg Path.mk isBack,
    fullDescribed.below_root startsWithSlash (stays pattern member)⟩

/-- With patterns that stay below the root, the path below the root decides. -/
theorem isExcluded_iff_of_staysBelowRoot
    {analyzer : Analyzer}
    {names : List FileName}
    (stays : ∀ pattern ∈ analyzer.exclude, pattern.staysBelowRoot = true)
    (absolute : analyzer.root.isAbsolute = true)
    (named : names ≠ [])
    (relative : (Path.ofNames names).isAbsolute = false) :
    analyzer.isExcluded names = true ↔ analyzer.Describes (Path.ofNames names) := by
  rw [isExcluded_iff_describes named]
  exact or_iff_left_of_imp (describes_of_describes_fullPath stays absolute named relative)

/--
Two analyzers with the same patterns give a file the same verdict exactly if its
path below the root is described, or both full paths are, or neither is.  With
patterns that stay below the root the verdict is that of the path below the root,
wherever the project lies.
-/
theorem isExcluded_at_other_root
    {workingDirectory otherDirectory : Option Path}
    {root otherRoot : Option Path}
    {rules otherRules : List Rule}
    {exclude : List String}
    {config : Config}
    {analyzer other : Analyzer}
    {names : List FileName}
    (built : build workingDirectory root rules exclude config = .ok analyzer)
    (otherBuilt : build otherDirectory otherRoot otherRules exclude config = .ok other)
    (absolute : analyzer.root.isAbsolute = true)
    (otherAbsolute : other.root.isAbsolute = true)
    (named : names ≠ [])
    (relative : (Path.ofNames names).isAbsolute = false) :
    (analyzer.isExcluded names = other.isExcluded names ↔
        analyzer.Describes (Path.ofNames names) ∨
          (analyzer.Describes (analyzer.fullPath names) ↔
            other.Describes (other.fullPath names))) ∧
      ((∀ pattern ∈ analyzer.exclude, pattern.staysBelowRoot = true) →
        analyzer.isExcluded names = other.isExcluded names ∧
          (analyzer.isExcluded names = true ↔ analyzer.Describes (Path.ofNames names))) := by
  have samePatterns : analyzer.exclude = other.exclude :=
    exclude_eq_of_build built otherBuilt
  have sameBelow :
      analyzer.Describes (Path.ofNames names) ↔ other.Describes (Path.ofNames names) :=
    describes_congr samePatterns
  refine ⟨?_, fun stays => ?_⟩
  · rw [Bool.eq_iff_iff, isExcluded_iff_describes named, isExcluded_iff_describes named,
      ← sameBelow]
    by_cases described : analyzer.Describes (Path.ofNames names) <;>
      simp [described]
  · have below := isExcluded_iff_of_staysBelowRoot stays absolute named relative
    have otherBelow :=
      isExcluded_iff_of_staysBelowRoot (samePatterns ▸ stays) otherAbsolute named relative
    refine ⟨?_, below⟩
    rw [Bool.eq_iff_iff, below, otherBelow, sameBelow]

/-- An old page, below two roots of which one lies in a build folder. -/
theorem isExcluded_at_other_root_in_build_folder :
    ∃ analyzer other : Analyzer,
      build (some (.ofString "/")) (some (.ofString "/docs")) Rule.catalogue
          ["old/*"] { analyzer := { exclude := ["*~"] } } = .ok analyzer ∧
        build (some (.ofString "/")) (some (.ofString "/srv/_build/docs")) Rule.catalogue
          ["old/*"] { analyzer := { exclude := ["*~"] } } = .ok other ∧
        (∀ pattern ∈ analyzer.exclude, pattern.staysBelowRoot = true) ∧
        analyzer.isExcluded ["old", "index.rst"] = true ∧
        analyzer.isExcluded ["old", "index.rst"] = other.isExcluded ["old", "index.rst"] := by
  have built :
      build (some (.ofString "/")) (some (.ofString "/docs")) Rule.catalogue
          ["old/*"] { analyzer := { exclude := ["*~"] } } =
        .ok ⟨.ofString "/docs", Rule.catalogue,
          [[.literal 'o', .literal 'l', .literal 'd', .literal '/', .anyText],
            [.anyText, .literal '~']],
          { analyzer := { exclude := ["*~"] } }⟩ :=
    rfl
  have otherBuilt :
      build (some (.ofString "/")) (some (.ofString "/srv/_build/docs")) Rule.catalogue
          ["old/*"] { analyzer := { exclude := ["*~"] } } =
        .ok ⟨.ofString "/srv/_build/docs", Rule.catalogue,
          [[.literal 'o', .literal 'l', .literal 'd', .literal '/', .anyText],
            [.anyText, .literal '~']],
          { analyzer := { exclude := ["*~"] } }⟩ :=
    rfl
  refine ⟨_, _, built, otherBuilt, by decide, by decide, ?_⟩
  exact ((isExcluded_at_other_root built otherBuilt (by decide) (by decide) (by decide)
    (by decide)).2 (by decide)).1

/-- The default patterns exclude every page of a project in a build folder. -/
theorem isExcluded_depends_on_root :
    ¬ ∀ (root otherRoot : Path) (analyzer other : Analyzer) (names : List FileName),
      build (some (.ofString "/")) (some root) Rule.catalogue [] {} = .ok analyzer →
      build (some (.ofString "/")) (some otherRoot) Rule.catalogue [] {} = .ok other →
      root.isAbsolute = true →
      otherRoot.isAbsolute = true →
      names ≠ [] →
      (∀ name ∈ names,
        name ∉ [("" : FileName), ".", ".."] ∧ Path.slash ∉ name.bytes) →
      analyzer.isExcluded names = other.isExcluded names := by
  intro same
  have sameVerdict :=
    same (.ofString "/docs") (.ofString "/srv/_build/docs") _ _ ["index.rst"]
      rfl rfl (by decide) (by decide) (by decide) (by decide)
  revert sameVerdict
  decide +kernel

end Analyzer

end MarkupLint
