import MarkupLint.Proofs.Attempts
import MarkupLint.Proofs.Configuration
import MarkupLint.Proofs.Files.Walk
import MarkupLint.Proofs.WalkOrder

namespace MarkupLint

/-!
# Excluding files is filtering the report

Exclude patterns act on paths before any file is read, while a report knows its files by
their labels alone.  The label still tells the path, so further patterns do to a report
what they do to the files: they take away the violations of the files they describe and
leave the others in their order.
-/

/-! ## Sorting what is left -/

/-- A list is cut in one way only into items without a property and items with it. -/
theorem cut_unique
    {α : Type}
    {has : α → Bool}
    {before after otherBefore otherAfter : List α}
    (same : before ++ after = otherBefore ++ otherAfter)
    (without : ∀ item ∈ before, has item = false)
    (within : ∀ item ∈ after, has item = true)
    (otherWithout : ∀ item ∈ otherBefore, has item = false)
    (otherWithin : ∀ item ∈ otherAfter, has item = true) :
    before = otherBefore ∧ after = otherAfter := by
  have nothingBetween :
      ∀ between : List α,
        (∀ item ∈ between, has item = false) →
        (∀ item ∈ between, has item = true) →
        between = [] := by
    intro between none all
    cases between with
    | nil =>
        rfl
    | cons item others =>
        have absent := none item List.mem_cons_self
        rw [all item List.mem_cons_self] at absent
        cases absent
  rcases List.append_eq_append_iff.mp same with ⟨between, rfl, rfl⟩ | ⟨between, rfl, rfl⟩
  · have empty :=
      nothingBetween between
        (fun item member => otherWithout item (List.mem_append_right before member))
        (fun item member => within item (List.mem_append_left otherAfter member))
    simp [empty]
  · have empty :=
      nothingBetween between
        (fun item member => without item (List.mem_append_right otherBefore member))
        (fun item member => otherWithin item (List.mem_append_left after member))
    simp [empty]

section

variable
  {α : Type}
  {le : α → α → Bool}
  (trans :
    ∀ item other third,
      le item other = true →
      le other third = true →
      le item third = true)
  (total : ∀ item other, (le item other || le other item) = true)

include trans total

/-- A stable sort puts a first item right in front of the items that are not smaller. -/
theorem exists_mergeSort_cons_eq
    (first : α)
    (rest : List α) :
    ∃ smaller others,
      (first :: rest).mergeSort le = smaller ++ first :: others ∧
        rest.mergeSort le = smaller ++ others ∧
        (∀ item ∈ smaller, le first item = false) ∧
        ∀ item ∈ others, le first item = true := by
  obtain ⟨smaller, others, shape, restShape, areSmaller⟩ :=
    List.mergeSort_cons trans total first rest
  have sorted := List.pairwise_mergeSort trans total (first :: rest)
  rw [shape, List.pairwise_append, List.pairwise_cons] at sorted
  refine ⟨smaller, others, shape, restShape, ?_, sorted.2.1.1⟩
  intro item member
  simpa using areSmaller item member

/--
Dropping items and sorting the others is sorting all and then dropping.  What is left of
the two sides of the first item are its two sides again.
-/
theorem filter_mergeSort
    (keeps : α → Bool)
    (items : List α) :
    (items.mergeSort le).filter keeps = (items.filter keeps).mergeSort le := by
  induction items with
  | nil =>
      simp
  | cons first rest inductionHypothesis =>
      obtain ⟨smaller, others, shape, restShape, areSmaller, areNotSmaller⟩ :=
        exists_mergeSort_cons_eq trans total first rest
      rw [restShape, List.filter_append] at inductionHypothesis
      by_cases kept : keeps first = true
      · obtain ⟨keptSmaller, keptOthers, keptShape, keptRestShape, keptAreSmaller,
            keptAreNotSmaller⟩ :=
          exists_mergeSort_cons_eq trans total first (rest.filter keeps)
        rw [keptRestShape] at inductionHypothesis
        obtain ⟨sameSmaller, sameOthers⟩ :=
          cut_unique inductionHypothesis
            (fun item member => areSmaller item (List.mem_filter.mp member).1)
            (fun item member => areNotSmaller item (List.mem_filter.mp member).1)
            keptAreSmaller keptAreNotSmaller
        rw [shape, List.filter_append, List.filter_cons_of_pos kept, List.filter_cons_of_pos kept,
          keptShape, sameSmaller, sameOthers]
      · rw [shape, List.filter_append, List.filter_cons_of_neg kept, List.filter_cons_of_neg kept,
          ← inductionHypothesis]

end

namespace Violation

theorem le_trans
    (violation other third : Violation)
    (first : violation.le other = true)
    (second : other.le third = true) :
    violation.le third = true := by
  rw [le_iff] at first second ⊢
  rcases first with firstFile | ⟨firstSame, firstLine⟩
  · rcases second with secondFile | ⟨secondSame, -⟩
    · exact .inl (firstFile.trans secondFile)
    · exact .inl (secondSame ▸ firstFile)
  · rcases second with secondFile | ⟨secondSame, secondLine⟩
    · exact .inl (firstSame ▸ secondFile)
    · exact .inr ⟨firstSame.trans secondSame, firstLine.trans secondLine⟩

theorem le_total
    (violation other : Violation) :
    (violation.le other || other.le violation) = true := by
  rw [Bool.or_eq_true, le_iff, le_iff]
  rcases lt_trichotomy (violation.location.file.names.map FileName.codes)
      (other.location.file.names.map FileName.codes) with before | sameCodes | behind
  · exact .inl (.inl before)
  · have same := List.map_injective_iff.mpr FileName.codes_injective sameCodes
    rcases Nat.le_total violation.location.line other.location.line with above | below
    · exact .inl (.inr ⟨same, above⟩)
    · exact .inr (.inr ⟨same.symm, below⟩)
  · exact .inr (.inl behind)

end Violation

/-! ## Lists of patterns -/

namespace ExcludePattern

/-- The patterns that texts stand for; each text has to be one. -/
def ofTexts (texts : List String) : Except PatternError (List ExcludePattern) :=
  texts.mapM (ofText ·.toList)

/-- The patterns read are those that the texts stand for. -/
theorem mem_iff_of_ofTexts
    {texts : List String}
    {patterns : List ExcludePattern}
    (read : ofTexts texts = .ok patterns)
    (pattern : ExcludePattern) :
    pattern ∈ patterns ↔ ∃ text ∈ texts, ofText text.toList = .ok pattern := by
  induction texts generalizing patterns with
  | nil =>
      cases read
      simp
  | cons text texts inductionHypothesis =>
      obtain ⟨first, others, firstRead, othersRead, rfl⟩ := mapM_cons_eq_ok_iff.mp read
      rw [List.mem_cons, inductionHypothesis othersRead, eq_comm]
      simp [firstRead]

end ExcludePattern

/-- Whether one of the patterns describes a file by its label or by its path. -/
def matchesFile (patterns : List ExcludePattern) (label path : Path) : Bool :=
  patterns.any fun pattern => pattern.isPathMatch label || pattern.isPathMatch path

/-- Which of the patterns come first or several times does not matter. -/
theorem matchesFile_congr
    {patterns others : List ExcludePattern}
    (same : ∀ pattern, pattern ∈ patterns ↔ pattern ∈ others)
    (label path : Path) :
    matchesFile patterns label path = matchesFile others label path := by
  rw [Bool.eq_iff_iff, matchesFile, matchesFile, List.any_eq_true, List.any_eq_true]
  simp only [same]

namespace Analyzer

/-! ## Analyzers that differ in their patterns -/

/-- Whether one of the patterns describes the file that names lead to. -/
def matchesNames (analyzer : Analyzer) (patterns : List ExcludePattern) (names : List FileName) :
    Bool :=
  matchesFile patterns (analyzer.label names) (analyzer.fullPath names)

/-- The path of a file that a report calls by a label: a root that is a file has no other. -/
def pathOf (analyzer : Analyzer) (files : FileSystem) (label : Path) : Path :=
  if files.isFile analyzer.root then analyzer.root else analyzer.root.join label

/-- Whether one of the patterns describes the file that a report calls by a label. -/
def matchesLabel (analyzer : Analyzer) (files : FileSystem) (patterns : List ExcludePattern)
    (label : Path) : Bool :=
  matchesFile patterns label (analyzer.pathOf files label)

/-- The analyzer with other patterns, and a configuration that lists others. -/
def withExclude (analyzer : Analyzer) (patterns : List ExcludePattern)
    (configured : List String) : Analyzer :=
  { analyzer with
    exclude := patterns
    config := { analyzer.config with
      analyzer := { analyzer.config.analyzer with exclude := configured } } }

section

variable
  {workingDirectory : Option Path}
  {root : Option Path}
  {rules : List Rule}
  {exclude : List String}
  {config : Config}
  {analyzer : Analyzer}
  (built : build workingDirectory root rules exclude config = .ok analyzer)

include built

theorem mem_exclude_iff_of_build
    (pattern : ExcludePattern) :
    pattern ∈ analyzer.exclude ↔
      ∃ text ∈ exclude ++ config.analyzer.exclude,
        ExcludePattern.ofText text.toList = .ok pattern := by
  obtain ⟨_, patterns, -, read, rfl⟩ := build_eq_ok_iff.mp built
  exact ExcludePattern.mem_iff_of_ofTexts read pattern

theorem readable_of_build :
    ∀ text ∈ exclude ++ config.analyzer.exclude,
      ∃ pattern, ExcludePattern.ofText text.toList = .ok pattern := by
  obtain ⟨_, patterns, -, read, -⟩ := build_eq_ok_iff.mp built
  exact exists_mapM_eq_ok_iff.mp ⟨patterns, read⟩

/-- Readable texts in place of the excluded ones change the patterns and nothing else. -/
theorem exists_build_eq_withExclude
    {others configured : List String}
    (readable :
      ∀ text ∈ others ++ configured,
        ∃ pattern, ExcludePattern.ofText text.toList = .ok pattern) :
    ∃ patterns,
      build workingDirectory root rules others
          { config with analyzer := { config.analyzer with exclude := configured } } =
        .ok (analyzer.withExclude patterns configured) ∧
      ∀ pattern,
        pattern ∈ patterns ↔
          ∃ text ∈ others ++ configured, ExcludePattern.ofText text.toList = .ok pattern := by
  obtain ⟨place, -, isPlace, -, rfl⟩ := build_eq_ok_iff.mp built
  obtain ⟨patterns, read⟩ := exists_mapM_eq_ok_iff.mpr readable
  exact ⟨patterns, build_eq_ok_iff.mpr ⟨place, patterns, isPlace, read, rfl⟩,
    ExcludePattern.mem_iff_of_ofTexts read⟩

end

section

variable
  (analyzer : Analyzer)
  (patterns : List ExcludePattern)
  (configured : List String)

@[simp] theorem walk_withExclude
    (files : FileSystem) :
    (analyzer.withExclude patterns configured).walk files = analyzer.walk files :=
  rfl

@[simp] theorem checkFile_withExclude :
    (analyzer.withExclude patterns configured).checkFile = analyzer.checkFile :=
  rfl

@[simp] theorem accepts_withExclude
    (file : WalkedFile) :
    (analyzer.withExclude patterns configured).accepts file =
      (analyzer.isDocument file.names && !analyzer.matchesNames patterns file.names) :=
  rfl

end

section

variable
  {analyzer : Analyzer}
  {patterns further : List ExcludePattern}
  (extended :
    ∀ pattern, pattern ∈ patterns ↔ pattern ∈ analyzer.exclude ∨ pattern ∈ further)
  (configured : List String)

include extended

theorem matchesNames_extended
    (names : List FileName) :
    analyzer.matchesNames patterns names =
      (analyzer.isExcluded names || analyzer.matchesNames further names) := by
  have same : ∀ pattern, pattern ∈ patterns ↔ pattern ∈ analyzer.exclude ++ further := by
    simpa using extended
  rw [matchesNames, matchesFile_congr same, matchesFile, List.any_append]
  rfl

/-- Further patterns leave the files that they do not describe, in their order. -/
theorem documents_withExclude
    (walked : List WalkedFile) :
    (analyzer.withExclude patterns configured).documents walked =
      (analyzer.documents walked).filter fun file =>
        !analyzer.matchesNames further file.names := by
  rw [documents, documents, filter_mergeSort namesLe_trans namesLe_total, List.filter_filter]
  congr 1
  apply List.filter_congr
  intro file _
  rw [accepts_withExclude, matchesNames_extended extended, accepts, Bool.not_or,
    ← Bool.and_assoc, Bool.and_comm]

end

/-! ## Reports -/

theorem walk_eq_ok_iff
    {analyzer : Analyzer}
    {files : FileSystem}
    {walked : List WalkedFile} :
    analyzer.walk files = .ok walked ↔
      files.walk analyzer.root analyzer.config.analyzer.respectGitignore = .ok walked := by
  rw [walk]
  cases files.walk analyzer.root analyzer.config.analyzer.respectGitignore <;>
    simp [Except.mapError]

theorem analyze_eq_ok_iff
    {analyzer : Analyzer}
    {files : FileSystem}
    {report : Report} :
    analyzer.analyze files = .ok report ↔
      ∃ walked,
        analyzer.walk files = .ok walked ∧
          (∀ file ∈ analyzer.documents walked, file.contents ≠ none) ∧
          analyzer.report walked = report := by
  rw [analyze]
  cases analyzer.walk files with
  | error error =>
      simp [Except.bind]
  | ok walked =>
      simp [Except.bind, conclude_eq_ok_iff]

/-- The label of a file in a report tells its path. -/
theorem matchesLabel_label
    {analyzer : Analyzer}
    {files : FileSystem}
    {walked : List WalkedFile}
    (found : analyzer.walk files = .ok walked)
    {file : WalkedFile}
    (member : file ∈ walked)
    (patterns : List ExcludePattern) :
    analyzer.matchesLabel files patterns (analyzer.label file.names) =
      analyzer.matchesNames patterns file.names := by
  have atRoot := FileSystem.names_eq_nil_iff_of_mem_walk (walk_eq_ok_iff.mp found) member
  have path :
      analyzer.pathOf files (analyzer.label file.names) = analyzer.fullPath file.names := by
    cases names : file.names with
    | nil =>
        rw [pathOf, if_pos (atRoot.mp names)]
        rfl
    | cons name others =>
        rw [pathOf, if_neg]
        · rfl
        · rw [← atRoot, names]
          exact List.cons_ne_nil name others
  rw [matchesLabel, path, matchesNames]

/-- Dropping files drops their violations, which are known by the label. -/
theorem filter_flatMap_checkFile
    {analyzer : Analyzer}
    {keepsFile : WalkedFile → Bool}
    (keepsLabel : Path → Bool)
    {documents : List WalkedFile}
    (agree :
      ∀ file ∈ documents,
        keepsLabel (analyzer.label file.names) = keepsFile file) :
    (documents.flatMap analyzer.checkFile).filter
        (fun violation => keepsLabel violation.location.file) =
      (documents.filter keepsFile).flatMap analyzer.checkFile := by
  induction documents with
  | nil =>
      rfl
  | cons file documents inductionHypothesis =>
      rw [List.forall_mem_cons] at agree
      have ofFile :
          ∀ violation ∈ analyzer.checkFile file,
            keepsLabel violation.location.file = keepsFile file := by
        intro violation member
        rw [file_of_mem_checkDocument member, agree.1]
      rw [List.flatMap_cons, List.filter_append, inductionHypothesis agree.2]
      cases kept : keepsFile file with
      | true =>
          rw [List.filter_cons_of_pos kept, List.flatMap_cons, List.filter_eq_self.mpr]
          intro violation member
          rw [ofFile violation member, kept]
      | false =>
          rw [List.filter_cons_of_neg (by simp [kept]), List.filter_eq_nil_iff.mpr,
            List.nil_append]
          intro violation member
          simp [ofFile violation member, kept]

/-- Further patterns take the violations of the files they describe out of a report. -/
theorem report_withExclude
    {analyzer : Analyzer}
    {patterns further : List ExcludePattern}
    (extended :
      ∀ pattern, pattern ∈ patterns ↔ pattern ∈ analyzer.exclude ∨ pattern ∈ further)
    (configured : List String)
    {files : FileSystem}
    {walked : List WalkedFile}
    (found : analyzer.walk files = .ok walked) :
    (analyzer.withExclude patterns configured).report walked =
      ⟨(analyzer.report walked).violations.filter fun violation =>
          !analyzer.matchesLabel files further violation.location.file,
        ((analyzer.documents walked).filter fun file =>
          !analyzer.matchesNames further file.names).length⟩ := by
  have agree :
      ∀ file ∈ analyzer.documents walked,
        (!analyzer.matchesLabel files further (analyzer.label file.names)) =
          !analyzer.matchesNames further file.names := by
    intro file isDocument
    rw [matchesLabel_label found (analyzer.mem_documents_iff.mp isDocument).1]
  rw [report, report, documents_withExclude extended, checkFile_withExclude,
    filter_mergeSort Violation.le_trans Violation.le_total,
    filter_flatMap_checkFile (fun label => !analyzer.matchesLabel files further label) agree]

/-- The files that further patterns do not describe are as many fewer as they describe. -/
theorem analyze_withExclude
    {analyzer : Analyzer}
    {patterns further : List ExcludePattern}
    (extended :
      ∀ pattern, pattern ∈ patterns ↔ pattern ∈ analyzer.exclude ∨ pattern ∈ further)
    (configured : List String)
    {files : FileSystem}
    {report : Report}
    (analyzed : analyzer.analyze files = .ok report) :
    ∃ walked remaining,
      analyzer.walk files = .ok walked ∧
        (analyzer.withExclude patterns configured).analyze files = .ok remaining ∧
        remaining.violations =
          report.violations.filter (fun violation =>
            !analyzer.matchesLabel files further violation.location.file) ∧
        remaining.filesChecked +
            (analyzer.documents walked).countP (fun file =>
              analyzer.matchesNames further file.names) =
          report.filesChecked := by
  obtain ⟨walked, found, canRead, rfl⟩ := analyze_eq_ok_iff.mp analyzed
  have canReadRest :
      ∀ file ∈ (analyzer.withExclude patterns configured).documents walked,
        file.contents ≠ none := by
    intro file member
    rw [documents_withExclude extended] at member
    exact canRead file (List.mem_filter.mp member).1
  refine ⟨walked, _, found, analyze_eq_ok_iff.mpr ⟨walked, found, canReadRest, rfl⟩, ?_, ?_⟩
  · rw [report_withExclude extended configured found]
  · have parts :=
      (analyzer.documents walked).length_eq_countP_add_countP fun file =>
        analyzer.matchesNames further file.names
    simp only [Bool.not_eq_true, Bool.decide_eq_false] at parts
    rw [report_withExclude extended configured found, ← List.countP_eq_length_filter,
      Nat.add_comm, ← parts]
    rfl

/-- Patterns of the same texts, in any order and from either source, lead to one report. -/
theorem analyze_withExclude_of_same
    {analyzer : Analyzer}
    {patterns : List ExcludePattern}
    (same : ∀ pattern, pattern ∈ patterns ↔ pattern ∈ analyzer.exclude)
    (configured : List String)
    (files : FileSystem) :
    (analyzer.withExclude patterns configured).analyze files = analyzer.analyze files := by
  have extended :
      ∀ pattern, pattern ∈ patterns ↔ pattern ∈ analyzer.exclude ∨ pattern ∈ [] := by
    simpa using same
  have sameDocuments :
      (analyzer.withExclude patterns configured).documents = analyzer.documents := by
    funext walked
    rw [documents_withExclude extended, List.filter_eq_self]
    intro file _
    rfl
  have sameConclusion :
      (analyzer.withExclude patterns configured).conclude = analyzer.conclude := by
    funext walked
    rw [conclude, conclude, denied?, denied?, report, report, sameDocuments,
      checkFile_withExclude]
    rfl
  rw [analyze, analyze, walk_withExclude, sameConclusion]

/--
Excluding is filtering the report.  With further patterns the violations are those
found without them, in the same order, less those whose file is described by one of
the patterns, and the number of files drops by the files that are described.  So the
order of patterns, their repetition and where they come from do not matter.
-/
theorem analyze_excluding_filters_report
    {workingDirectory : Option Path}
    {root : Option Path}
    {rules : List Rule}
    {exclude further : List String}
    {config : Config}
    {analyzer : Analyzer}
    {furtherPatterns : List ExcludePattern}
    (built : build workingDirectory root rules exclude config = .ok analyzer)
    (readable : ExcludePattern.ofTexts further = .ok furtherPatterns) :
    (∃ stricter,
      build workingDirectory root rules (exclude ++ further) config = .ok stricter ∧
        ∀ (files : FileSystem) (report : Report),
          analyzer.analyze files = .ok report →
          ∃ walked remaining,
            analyzer.walk files = .ok walked ∧
              stricter.analyze files = .ok remaining ∧
              remaining.violations =
                report.violations.filter (fun violation =>
                  !analyzer.matchesLabel files furtherPatterns violation.location.file) ∧
              remaining.filesChecked +
                  (analyzer.documents walked).countP (fun file =>
                    analyzer.matchesNames furtherPatterns file.names) =
                report.filesChecked) ∧
      ∀ others configured : List String,
        (∀ text, text ∈ others ++ configured ↔ text ∈ exclude ++ config.analyzer.exclude) →
        ∃ other,
          build workingDirectory root rules others
              { config with analyzer := { config.analyzer with exclude := configured } } =
            .ok other ∧
          ∀ files, other.analyze files = analyzer.analyze files := by
  have eachFurtherRead := exists_mapM_eq_ok_iff.mp ⟨furtherPatterns, readable⟩
  constructor
  · have inStricter :
        ∀ text,
          text ∈ exclude ++ further ++ config.analyzer.exclude ↔
            text ∈ exclude ++ config.analyzer.exclude ∨ text ∈ further := by
      intro text
      simp only [List.mem_append]
      tauto
    obtain ⟨patterns, stricterBuilt, arePatterns⟩ :=
      exists_build_eq_withExclude built fun text member =>
        ((inStricter text).mp member).elim (readable_of_build built text) (eachFurtherRead text)
    have extended :
        ∀ pattern,
          pattern ∈ patterns ↔ pattern ∈ analyzer.exclude ∨ pattern ∈ furtherPatterns := by
      intro pattern
      rw [arePatterns, mem_exclude_iff_of_build built,
        ExcludePattern.mem_iff_of_ofTexts readable]
      simp only [inStricter, or_and_right, exists_or]
    exact ⟨_, stricterBuilt, fun files report analyzed =>
      analyze_withExclude extended config.analyzer.exclude analyzed⟩
  · intro others configured sameTexts
    obtain ⟨patterns, otherBuilt, arePatterns⟩ :=
      exists_build_eq_withExclude built fun text member =>
        readable_of_build built text ((sameTexts text).mp member)
    have same : ∀ pattern, pattern ∈ patterns ↔ pattern ∈ analyzer.exclude := by
      intro pattern
      rw [arePatterns, mem_exclude_iff_of_build built]
      simp only [sameTexts]
    exact ⟨_, otherBuilt, analyze_withExclude_of_same same configured⟩

/-- An old folder with two pages, one of which has a violation, is left out on demand. -/
theorem analyze_excluding_filters_report_in_folder :
    ∃ (files : FileSystem) (analyzer stricter : Analyzer) (report remaining : Report),
      files =
          ⟨.directory
              [("docs", .directory
                [("old", .directory
                  [("a.rst", .file (some (Utf8.encode "admin.yml".toList))),
                    ("b.rst", .file (some []))]),
                  ("index.rst", .file (some (Utf8.encode "admin.yaml".toList)))])],
            some (.ofString "/"), []⟩ ∧
        build (some (.ofString "/")) (some (.ofString "docs")) Rule.catalogue ["*~"] {} =
          .ok analyzer ∧
        build (some (.ofString "/")) (some (.ofString "docs")) Rule.catalogue
            (["*~"] ++ ["old/*"]) {} =
          .ok stricter ∧
        analyzer.analyze files = .ok report ∧
        stricter.analyze files = .ok remaining ∧
        remaining.violations =
          report.violations.filter (fun violation =>
            !analyzer.matchesLabel files
              [[.literal 'o', .literal 'l', .literal 'd', .literal '/', .anyText]]
              violation.location.file) ∧
        remaining.filesChecked + 2 = report.filesChecked := by
  have built :
      build (some (.ofString "/")) (some (.ofString "docs")) Rule.catalogue ["*~"] {} =
        .ok ⟨.ofString "/docs", Rule.catalogue,
          [[.anyText, .literal '~'],
            [.anyFolders, .literal '_', .literal 'b', .literal 'u', .literal 'i', .literal 'l',
              .literal 'd', .literal '/', .anyFolders]], {}⟩ :=
    rfl
  have readable :
      ExcludePattern.ofTexts ["old/*"] =
        .ok [[.literal 'o', .literal 'l', .literal 'd', .literal '/', .anyText]] :=
    rfl
  have walk :
      FileSystem.walk
          ⟨.directory
              [("docs", .directory
                [("old", .directory
                  [("a.rst", .file (some (Utf8.encode "admin.yml".toList))),
                    ("b.rst", .file (some []))]),
                  ("index.rst", .file (some (Utf8.encode "admin.yaml".toList)))])],
            some (.ofString "/"), []⟩ (.ofString "/docs") true =
        .ok
          [⟨["old", "a.rst"], some (Utf8.encode "admin.yml".toList)⟩,
            ⟨["old", "b.rst"], some []⟩,
            ⟨["index.rst"], some (Utf8.encode "admin.yaml".toList)⟩] := by
    rfl
  have canRead
      (analyzer : Analyzer) :
      ∀ file ∈
          analyzer.documents
            [⟨["old", "a.rst"], some (Utf8.encode "admin.yml".toList)⟩,
              ⟨["old", "b.rst"], some []⟩,
              ⟨["index.rst"], some (Utf8.encode "admin.yaml".toList)⟩],
        file.contents ≠ none := by
    simp only [mem_documents_iff]
    rintro file ⟨member, -⟩
    revert file
    decide
  obtain ⟨stricter, stricterBuilt, filtered⟩ :=
    (analyze_excluding_filters_report built readable).1
  obtain ⟨walked, remaining, found, analyzed, violations, count⟩ :=
    filtered _ _ (analyze_eq_ok_iff.mpr ⟨_, walk_eq_ok_iff.mpr walk, canRead _, rfl⟩)
  cases (walk_eq_ok_iff.mp found).symm.trans walk
  rw [(documents_perm _ _).countP_eq] at count
  exact ⟨_, _, stricter, _, remaining, rfl, built, stricterBuilt,
    analyze_eq_ok_iff.mpr ⟨_, found, canRead _, rfl⟩, analyzed, violations, count⟩

end Analyzer

end MarkupLint
