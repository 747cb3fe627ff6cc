import Mathlib.Data.List.Lex
import Mathlib.Data.List.Nodup
import Mathlib.Data.String.Basic
import MarkupLint.Proofs.Files.Path
import MarkupLint.Proofs.RuleLists

namespace MarkupLint

/-!
# The order of a walk

A walk may yield its files in any order.  They are sorted by their paths before
they are looked at, so the report is that of the set of files.

The violations are sorted once more, by the label of their file and by line.  This
changes nothing: cutting the root off two paths keeps their order and never makes
them equal, and the violations of one file already run from top to bottom.
-/

/-! ## The order of names -/

/-- A comparison by a key, carried over to lists, compares the lists of keys. -/
theorem lexLe_iff
    {α β : Type}
    [DecidableEq α]
    [LinearOrder β]
    {le : α → α → Bool}
    {key : α → β}
    (isInjective : key.Injective)
    (le_iff : ∀ item other, le item other = true ↔ key item ≤ key other)
    {items others : List α} :
    lexLe le items others = true ↔ items.map key ≤ others.map key := by
  rw [← not_lt]
  induction items generalizing others with
  | nil =>
      simp [lexLe]
  | cons item items inductionHypothesis =>
      cases others with
      | nil =>
          simp [lexLe]
      | cons other others =>
          rw [lexLe, List.map_cons, List.map_cons, List.cons_lt_cons_iff]
          by_cases same : item = other
          · rw [if_pos same, inductionHypothesis, same]
            simp
          · have different : key item ≠ key other := fun sameKey => same (isInjective sameKey)
            rw [if_neg same, le_iff, ← not_lt]
            simp [Ne.symm different]

/-- The bytes of a name as numbers. -/
def FileName.codes
    (name : FileName) : List Nat :=
  name.bytes.map UInt8.toNat

theorem FileName.codes_injective :
    FileName.codes.Injective := by
  rintro ⟨bytes⟩ ⟨others⟩ same
  have sameBytes : bytes = others :=
    List.map_injective_iff.mpr (fun _ _ => UInt8.toNat_inj.mp) same
  rw [sameBytes]

theorem FileName.le_iff
    {name other : FileName} :
    name.le other = true ↔ name.codes ≤ other.codes :=
  lexLe_iff (fun _ _ => UInt8.toNat_inj.mp) (fun _ _ => Nat.ble_eq ▸ .rfl)

theorem namesLe_iff
    {names others : List FileName} :
    namesLe names others = true ↔ names.map FileName.codes ≤ others.map FileName.codes :=
  lexLe_iff FileName.codes_injective (fun _ _ => FileName.le_iff)

theorem namesLe_trans
    (file other third : WalkedFile)
    (first : namesLe file.names other.names = true)
    (second : namesLe other.names third.names = true) :
    namesLe file.names third.names = true := by
  rw [namesLe_iff] at first second ⊢
  exact le_trans first second

theorem namesLe_total
    (file other : WalkedFile) :
    (namesLe file.names other.names || namesLe other.names file.names) = true := by
  rw [Bool.or_eq_true, namesLe_iff, namesLe_iff]
  exact le_total _ _

/-- Names in order that are not the same are in strict order. -/
theorem codes_lt_of_le_of_ne
    {names others : List FileName}
    (atMost : names.map FileName.codes ≤ others.map FileName.codes)
    (different : names ≠ others) :
    names.map FileName.codes < others.map FileName.codes :=
  lt_of_le_of_ne atMost fun same =>
    different (List.map_injective_iff.mpr FileName.codes_injective same)

/-- Violations are ordered by the names of their files, and by line in one file. -/
theorem Violation.le_iff
    {violation other : Violation} :
    violation.le other = true ↔
      violation.location.file.names.map FileName.codes <
          other.location.file.names.map FileName.codes ∨
        violation.location.file.names = other.location.file.names ∧
          violation.location.line ≤ other.location.line := by
  unfold Violation.le
  by_cases same : violation.location.file.names = other.location.file.names
  · simp [same]
  · simp only [if_neg same, namesLe_iff]
    rw [or_iff_left fun both => same both.1]
    exact ⟨fun atMost => codes_lt_of_le_of_ne atMost same, le_of_lt⟩

/-! ## Walks -/

/--
What is taken for granted of a walk: its files lie at different places, each at the
root or at the end of names below it, and a file at the root is the only one.
-/
structure IsWalk
    (walked : List WalkedFile) : Prop where
  distinct :
    (walked.map WalkedFile.names).Nodup
  areNames :
    ∀ file ∈ walked, ∀ name ∈ file.names, Path.IsName name
  rootAlone :
    ∀ file ∈ walked, file.names = [] → walked = [file]

namespace IsWalk

variable
  {walked : List WalkedFile}
  (isWalk : IsWalk walked)

include isWalk

theorem eq_of_names_eq
    {file other : WalkedFile}
    (member : file ∈ walked)
    (otherMember : other ∈ walked)
    (same : file.names = other.names) :
    file = other :=
  List.inj_on_of_nodup_map isWalk.distinct member otherMember same

theorem names_ne_nil_of_ne
    {file other : WalkedFile}
    (member : file ∈ walked)
    (otherMember : other ∈ walked)
    (different : file ≠ other) :
    file.names ≠ [] := by
  intro atRoot
  rw [isWalk.rootAlone file member atRoot, List.mem_singleton] at otherMember
  exact different otherMember.symm

end IsWalk

namespace Analyzer

/-! ## The files that are looked at -/

section

variable
  (analyzer : Analyzer)
  {walked : List WalkedFile}

theorem documents_perm
    (walked : List WalkedFile) :
    (analyzer.documents walked).Perm (walked.filter analyzer.accepts) :=
  List.mergeSort_perm _ _

theorem mem_documents_iff
    {file : WalkedFile} :
    file ∈ analyzer.documents walked ↔
      file ∈ walked ∧ analyzer.accepts file = true := by
  rw [(analyzer.documents_perm walked).mem_iff, List.mem_filter]

theorem documents_pairwise_le
    (walked : List WalkedFile) :
    (analyzer.documents walked).Pairwise fun file later =>
      file.names.map FileName.codes ≤ later.names.map FileName.codes := by
  have sorted :=
    List.pairwise_mergeSort namesLe_trans namesLe_total (walked.filter analyzer.accepts)
  rw [documents]
  simpa only [namesLe_iff] using sorted

theorem nodup_names_documents
    (isWalk : IsWalk walked) :
    ((analyzer.documents walked).map WalkedFile.names).Nodup := by
  have accepted :
      ((walked.filter analyzer.accepts).map WalkedFile.names).Nodup :=
    (List.filter_sublist.map WalkedFile.names).nodup isWalk.distinct
  exact ((analyzer.documents_perm walked).map WalkedFile.names).nodup_iff.mpr accepted

theorem documents_pairwise_lt
    (isWalk : IsWalk walked) :
    (analyzer.documents walked).Pairwise fun file later =>
      file.names.map FileName.codes < later.names.map FileName.codes := by
  have different := List.pairwise_map.mp (analyzer.nodup_names_documents isWalk)
  apply (analyzer.documents_pairwise_le walked).imp₂ _ different
  intro file later atMost notSame
  exact codes_lt_of_le_of_ne atMost notSame

/--
Sorting the files forgets the order in which they were found.  Two files of a walk that
sort alike have the same names, and so are one file.
-/
theorem documents_eq_of_perm
    (isWalk : IsWalk walked)
    {reordered : List WalkedFile}
    (sameFiles : reordered.Perm walked) :
    analyzer.documents reordered = analyzer.documents walked := by
  have perm :
      (analyzer.documents reordered).Perm (analyzer.documents walked) :=
    (analyzer.documents_perm reordered).trans
      ((sameFiles.filter analyzer.accepts).trans (analyzer.documents_perm walked).symm)
  apply perm.eq_of_pairwise _
    (analyzer.documents_pairwise_le reordered) (analyzer.documents_pairwise_le walked)
  intro file other member otherMember atMost atLeast
  have found : file ∈ walked :=
    sameFiles.mem_iff.mp (analyzer.mem_documents_iff.mp member).1
  have otherFound : other ∈ walked :=
    (analyzer.mem_documents_iff.mp otherMember).1
  have sameNames : file.names = other.names :=
    List.map_injective_iff.mpr FileName.codes_injective (le_antisymm atMost atLeast)
  exact isWalk.eq_of_names_eq found otherFound sameNames

end

/-- The analysis comes to its report exactly if all documents can be read. -/
theorem conclude_eq_ok_iff
    {analyzer : Analyzer}
    {walked : List WalkedFile}
    {report : Report} :
    analyzer.conclude walked = .ok report ↔
      (∀ file ∈ analyzer.documents walked, file.contents ≠ none) ∧
        analyzer.report walked = report := by
  unfold conclude
  cases denied : analyzer.denied? walked with
  | some file =>
      have isDenied : file.contents = none := by
        simpa using List.find?_some denied
      simp only [reduceCtorEq, false_iff, not_and]
      intro readable
      exact absurd isDenied (readable file (List.mem_of_find?_eq_some denied))
  | none =>
      have readable : ∀ file ∈ analyzer.documents walked, file.contents ≠ none := by
        simpa using List.find?_eq_none.mp denied
      rw [Except.ok.injEq, and_iff_right readable]

theorem conclude_of_readable
    {analyzer : Analyzer}
    {walked : List WalkedFile}
    (readable : ∀ file ∈ walked, analyzer.accepts file = true → file.contents ≠ none) :
    analyzer.conclude walked = .ok (analyzer.report walked) := by
  refine conclude_eq_ok_iff.mpr ⟨fun file member => ?_, rfl⟩
  obtain ⟨isFound, accepted⟩ := analyzer.mem_documents_iff.mp member
  exact readable file isFound accepted

/-! ## Labels -/

section

variable
  (analyzer : Analyzer)
  {walked : List WalkedFile}
  (isWalk : IsWalk walked)

include isWalk

theorem names_fullPath
    {file : WalkedFile}
    (member : file ∈ walked) :
    (analyzer.fullPath file.names).names = analyzer.root.names ++ file.names :=
  analyzer.root.names_below (isWalk.areNames file member)

theorem names_label
    {file : WalkedFile}
    (member : file ∈ walked)
    (belowRoot : file.names ≠ []) :
    (analyzer.label file.names).names = file.names := by
  have areNames := isWalk.areNames file member
  cases shape : file.names with
  | nil =>
      exact absurd shape belowRoot
  | cons name others =>
      rw [shape] at areNames
      exact Path.names_ofNames areNames

/-- Cutting the root off never makes two files the same. -/
theorem eq_of_names_label_eq
    {file other : WalkedFile}
    (member : file ∈ walked)
    (otherMember : other ∈ walked)
    (same : (analyzer.label file.names).names = (analyzer.label other.names).names) :
    file = other := by
  by_contra different
  have belowRoot := isWalk.names_ne_nil_of_ne member otherMember different
  have otherBelowRoot := isWalk.names_ne_nil_of_ne otherMember member (Ne.symm different)
  rw [names_label analyzer isWalk member belowRoot,
    names_label analyzer isWalk otherMember otherBelowRoot] at same
  exact different (isWalk.eq_of_names_eq member otherMember same)

end

/-! ## The violations of a walk -/

theorem file_of_mem_checkDocument
    {analyzer : Analyzer}
    {file : Path}
    {document : Document}
    {violation : Violation}
    (member : violation ∈ analyzer.checkDocument file document) :
    violation.location.file = file := by
  obtain ⟨index, -, found⟩ := List.mem_flatMap.mp member
  obtain ⟨rule, -, reported⟩ := List.mem_filterMap.mp found
  obtain ⟨message, -, rfl⟩ := Option.map_eq_some_iff.mp reported
  rfl

theorem checkFile_pairwise_le
    (analyzer : Analyzer)
    (file : WalkedFile) :
    (analyzer.checkFile file).Pairwise fun violation later => violation.le later = true := by
  apply (analyzer.checkDocument_pairwise_line _ _).imp_of_mem
  intro violation later member laterMember ordered
  rw [Violation.le_iff, file_of_mem_checkDocument member, file_of_mem_checkDocument laterMember]
  exact .inr ⟨rfl, ordered⟩

section

variable
  (analyzer : Analyzer)
  {walked : List WalkedFile}
  (isWalk : IsWalk walked)

include isWalk

/--
File by file, the violations are in order already.  Where there are two files, both lie
below the root and are labelled by their names.
-/
theorem flatMap_checkFile_pairwise_le :
    ((analyzer.documents walked).flatMap analyzer.checkFile).Pairwise
      fun violation later => violation.le later = true := by
  rw [List.pairwise_flatMap]
  constructor
  · intro file _
    exact analyzer.checkFile_pairwise_le file
  · apply (analyzer.documents_pairwise_lt isWalk).imp_of_mem
    intro file laterFile member laterMember ordered violation found later laterFound
    have isFound := (analyzer.mem_documents_iff.mp member).1
    have laterIsFound := (analyzer.mem_documents_iff.mp laterMember).1
    have different : file ≠ laterFile := by
      rintro rfl
      exact lt_irrefl _ ordered
    rw [Violation.le_iff, file_of_mem_checkDocument found, file_of_mem_checkDocument laterFound,
      analyzer.names_label isWalk isFound
        (isWalk.names_ne_nil_of_ne isFound laterIsFound different),
      analyzer.names_label isWalk laterIsFound
        (isWalk.names_ne_nil_of_ne laterIsFound isFound (Ne.symm different))]
    exact .inl ordered

theorem mergeSort_flatMap_checkFile :
    ((analyzer.documents walked).flatMap analyzer.checkFile).mergeSort Violation.le =
      (analyzer.documents walked).flatMap analyzer.checkFile :=
  List.mergeSort_of_pairwise (analyzer.flatMap_checkFile_pairwise_le isWalk)

/-- All violations with the label of a file are found in that file. -/
theorem filter_location_flatMap_checkFile
    {file : WalkedFile}
    (member : file ∈ analyzer.documents walked)
    (index : Nat) :
    ((analyzer.documents walked).flatMap analyzer.checkFile).filter
        (fun violation =>
          violation.location = .ofIndex (analyzer.label file.names) index) =
      (analyzer.checkFile file).filter fun violation =>
        violation.location.line = index + 1 := by
  have noDuplicates : (analyzer.documents walked).Nodup :=
    (analyzer.nodup_names_documents isWalk).of_map
  rw [List.filter_flatMap, flatMap_eq_of_unique noDuplicates member]
  · apply List.filter_congr
    intro violation found
    have inFile := file_of_mem_checkDocument found
    rw [Bool.eq_iff_iff, decide_eq_true_iff, decide_eq_true_iff]
    constructor
    · intro atIndex
      rw [atIndex]
      rfl
    · intro sameLine
      rw [Location.ofIndex, ← sameLine, ← inFile]
  · intro other otherMember different
    rw [List.filter_eq_nil_iff]
    intro violation found atIndex
    have sameFile : violation.location.file = analyzer.label file.names := by
      rw [decide_eq_true_iff.mp atIndex]
      rfl
    have sameLabel : analyzer.label other.names = analyzer.label file.names := by
      rw [← file_of_mem_checkDocument found, sameFile]
    exact different
      (analyzer.eq_of_names_label_eq isWalk (analyzer.mem_documents_iff.mp otherMember).1
        (analyzer.mem_documents_iff.mp member).1 (congrArg Path.names sameLabel))

theorem report_eq :
    analyzer.report walked =
      ⟨(analyzer.documents walked).flatMap analyzer.checkFile,
        (walked.filter analyzer.accepts).length⟩ := by
  rw [report, analyzer.mergeSort_flatMap_checkFile isWalk,
    (analyzer.documents_perm walked).length_eq]

theorem report_eq_of_perm
    {reordered : List WalkedFile}
    (sameFiles : reordered.Perm walked) :
    analyzer.report reordered = analyzer.report walked := by
  rw [report, report, analyzer.documents_eq_of_perm isWalk sameFiles]

theorem conclude_eq_of_perm
    {reordered : List WalkedFile}
    (sameFiles : reordered.Perm walked) :
    analyzer.conclude reordered = analyzer.conclude walked := by
  rw [conclude, conclude, denied?, denied?, analyzer.documents_eq_of_perm isWalk sameFiles,
    analyzer.report_eq_of_perm isWalk sameFiles]

theorem documents_pairwise_fullPath :
    (analyzer.documents walked).Pairwise fun file later =>
      (analyzer.fullPath file.names).names.map FileName.codes <
        (analyzer.fullPath later.names).names.map FileName.codes := by
  apply (analyzer.documents_pairwise_lt isWalk).imp_of_mem
  intro file later member laterMember ordered
  rw [analyzer.names_fullPath isWalk (analyzer.mem_documents_iff.mp member).1,
    analyzer.names_fullPath isWalk (analyzer.mem_documents_iff.mp laterMember).1,
    List.map_append, List.map_append]
  exact List.append_left_lt ordered

end

/--
The report does not depend on the order in which a walk finds the files.  It goes
through the accepted files in the order of their full paths and lists the violations
of each; sorting these by label and line leaves them as they are.  No two accepted
files share a label, and the violations of a line stand in the order of the rules.
-/
theorem report_independent_of_walk_order
    (analyzer : Analyzer)
    {walked : List WalkedFile}
    (isWalk : IsWalk walked) :
    (∀ reordered : List WalkedFile,
        reordered.Perm walked →
        analyzer.report reordered = analyzer.report walked ∧
          analyzer.conclude reordered = analyzer.conclude walked) ∧
      (∀ (files : FileSystem) (reordered : List WalkedFile),
        analyzer.walk files = .ok reordered →
        reordered.Perm walked →
        analyzer.analyze files = analyzer.conclude walked ∧
          ((∀ file ∈ walked, analyzer.accepts file = true → file.contents ≠ none) →
            analyzer.analyze files = .ok (analyzer.report walked))) ∧
      (∃ documents : List WalkedFile,
        documents.Perm (walked.filter analyzer.accepts) ∧
          documents.Pairwise (fun file later =>
            (analyzer.fullPath file.names).names.map FileName.codes <
              (analyzer.fullPath later.names).names.map FileName.codes) ∧
          (documents.flatMap analyzer.checkFile).mergeSort Violation.le =
            documents.flatMap analyzer.checkFile ∧
          analyzer.report walked =
            ⟨documents.flatMap analyzer.checkFile,
              (walked.filter analyzer.accepts).length⟩) ∧
      (∀ file ∈ walked,
        ∀ other ∈ walked,
          analyzer.accepts file = true →
          analyzer.accepts other = true →
          (analyzer.label file.names).names = (analyzer.label other.names).names →
          file = other) ∧
      (∀ file ∈ walked,
        analyzer.accepts file = true →
        ∀ index < (Document.ofText (Utf8.decodeLossy file.bytes)).size,
          (analyzer.report walked).violations.filter
              (fun violation =>
                violation.location = .ofIndex (analyzer.label file.names) index) =
            analyzer.activeRules.filterMap
              (analyzer.violation? (analyzer.label file.names)
                (Document.ofText (Utf8.decodeLossy file.bytes)) index)) := by
  refine ⟨fun reordered sameFiles => ⟨analyzer.report_eq_of_perm isWalk sameFiles,
      analyzer.conclude_eq_of_perm isWalk sameFiles⟩, ?_,
    ⟨analyzer.documents walked, analyzer.documents_perm walked,
      analyzer.documents_pairwise_fullPath isWalk,
      analyzer.mergeSort_flatMap_checkFile isWalk, analyzer.report_eq isWalk⟩, ?_, ?_⟩
  · intro files reordered found sameFiles
    have concludes : analyzer.analyze files = analyzer.conclude walked := by
      rw [← analyzer.conclude_eq_of_perm isWalk sameFiles, analyze, found]
      rfl
    exact ⟨concludes, fun readable => concludes.trans (conclude_of_readable readable)⟩
  · intro file member other otherMember _ _ sameLabel
    exact analyzer.eq_of_names_label_eq isWalk member otherMember sameLabel
  · intro file member accepted index inside
    have isDocument := analyzer.mem_documents_iff.mpr ⟨member, accepted⟩
    rw [analyzer.report_eq isWalk,
      analyzer.filter_location_flatMap_checkFile isWalk isDocument, checkFile,
      filter_line_checkDocument, if_pos inside]
    rfl

/--
A folder comes before the file whose name goes on with a space, though a slash sorts
behind it as a character; the text file is passed over in either order.
-/
theorem report_independent_of_walk_order_in_folder :
    IsWalk
        [⟨["a b.rst"], some []⟩, ⟨["notes.txt"], none⟩,
          ⟨["a", "b.rst"], some (Utf8.encode "admin.yml".toList)⟩] ∧
      report ⟨.ofString "/docs", Rule.catalogue, [], {}⟩
          [⟨["a", "b.rst"], some (Utf8.encode "admin.yml".toList)⟩, ⟨["a b.rst"], some []⟩,
            ⟨["notes.txt"], none⟩] =
        report ⟨.ofString "/docs", Rule.catalogue, [], {}⟩
          [⟨["a b.rst"], some []⟩, ⟨["notes.txt"], none⟩,
            ⟨["a", "b.rst"], some (Utf8.encode "admin.yml".toList)⟩] ∧
      (report ⟨.ofString "/docs", Rule.catalogue, [], {}⟩
          [⟨["a b.rst"], some []⟩, ⟨["notes.txt"], none⟩,
            ⟨["a", "b.rst"], some (Utf8.encode "admin.yml".toList)⟩]).violations.filter
          (fun violation => violation.location = .ofIndex "a/b.rst" 0) =
        [⟨"RST002", "no-admin-yaml", .error, ⟨"a/b.rst", 1⟩,
          LegacyAdminFile.message "admin.yml"⟩] := by
  have isWalk :
      IsWalk
        [⟨["a b.rst"], some []⟩, ⟨["notes.txt"], none⟩,
          ⟨["a", "b.rst"], some (Utf8.encode "admin.yml".toList)⟩] := {
    distinct := by decide
    areNames := by decide
    rootAlone := by decide
  }
  have independent :=
    report_independent_of_walk_order ⟨.ofString "/docs", Rule.catalogue, [], {}⟩ isWalk
  refine ⟨isWalk, (independent.1 _ (by decide)).1, ?_⟩
  exact independent.2.2.2.2 ⟨["a", "b.rst"], some (Utf8.encode "admin.yml".toList)⟩ (by simp)
    (by decide) 0 (by decide)

end Analyzer

end MarkupLint
