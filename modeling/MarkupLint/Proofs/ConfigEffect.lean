import MarkupLint.Analyzer
import MarkupLint.Proofs.Configuration

namespace MarkupLint

/-!
# Configurations with the same effect

An analyzer asks its configuration four things: which groups are selected, whether a
rule is enabled, which severity overrides that of a rule, and whether ignore files
count.  Two configurations with the same answers lead to the same results.  The root
and the patterns of a configuration are only read when an analyzer is built.
-/

namespace Config

/-- Configurations that give an analyzer the same answers. -/
structure SameEffect
    (config other : Config) : Prop where
  sameGroups : other.groups = config.groups
  sameEnabled : ∀ name, other.isRuleEnabled name = config.isRuleEnabled name
  sameSeverity : ∀ name, other.ruleSeverity? name = config.ruleSeverity? name
  sameGitignore : other.analyzer.respectGitignore = config.analyzer.respectGitignore

/-- Settings that disable nothing and override nothing have no effect. -/
theorem sameEffect_default
    {config : Config}
    (allGroups : config.groups = [])
    (neutral :
      ∀ entry ∈ config.rules, entry.2.enabled ≠ some false ∧ entry.2.severity = none)
    (gitignore : config.analyzer.respectGitignore = true) :
    SameEffect {} config where
  sameGroups := allGroups
  sameEnabled name := by
    have isEnabled : config.isRuleEnabled name = true := by
      rw [isRuleEnabled_iff]
      intro settings found
      obtain ⟨entry, foundEntry, rfl⟩ := Option.map_eq_some_iff.mp found
      exact (neutral entry (List.mem_of_find?_eq_some foundEntry)).1
    rw [isEnabled]
    rfl
  sameSeverity name := by
    have noSeverity : config.ruleSeverity? name = none := by
      rw [ruleSeverity?, Option.bind_eq_none_iff]
      intro settings found
      obtain ⟨entry, foundEntry, rfl⟩ := Option.map_eq_some_iff.mp found
      exact (neutral entry (List.mem_of_find?_eq_some foundEntry)).2
    rw [noSeverity]
    rfl
  sameGitignore := gitignore

end Config

namespace Analyzer

variable
  {config other : Config}
  {workingDirectory : Option Path}
  {root otherRoot : Option Path}
  {rules : List Rule}
  {exclude : List String}

theorem checkDocument_of_sameEffect
    {analyzer : Analyzer}
    (same : analyzer.config.SameEffect other)
    (file : Path)
    (document : Document) :
    checkDocument { analyzer with config := other } file document =
      analyzer.checkDocument file document := by
  have sameRules : activeRules { analyzer with config := other } = analyzer.activeRules := by
    rw [activeRules_eq_filter_admits, activeRules_eq_filter_admits]
    exact filter_admits_congr same.sameGroups fun rule _ => same.sameEnabled rule.name
  rw [checkDocument, checkDocument, sameRules]
  apply List.flatMap_congr
  intro index _
  apply List.filterMap_congr
  intro rule _
  rw [violation?, violation?, same.sameSeverity]

theorem report_of_sameEffect
    {analyzer : Analyzer}
    (same : analyzer.config.SameEffect other)
    (walked : List WalkedFile) :
    report { analyzer with config := other } walked = analyzer.report walked := by
  have sameDocuments :
      documents { analyzer with config := other } walked = analyzer.documents walked :=
    rfl
  have sameFiles : checkFile { analyzer with config := other } = analyzer.checkFile := by
    funext file
    exact checkDocument_of_sameEffect same _ _
  simp only [report, sameDocuments, sameFiles]

theorem walk_of_sameEffect
    {analyzer : Analyzer}
    (same : analyzer.config.SameEffect other)
    (files : FileSystem) :
    walk { analyzer with config := other } files = analyzer.walk files := by
  rw [walk, walk, same.sameGitignore]

theorem analyze_of_sameEffect
    {analyzer : Analyzer}
    (same : analyzer.config.SameEffect other)
    (files : FileSystem) :
    analyze { analyzer with config := other } files = analyzer.analyze files := by
  have sameConclusion : conclude { analyzer with config := other } = analyzer.conclude := by
    funext walked
    rw [conclude, conclude, report_of_sameEffect same]
    rfl
  rw [analyze, analyze, walk_of_sameEffect same, sameConclusion]

theorem config_of_build
    {analyzer : Analyzer}
    (built : build workingDirectory root rules exclude config = .ok analyzer) :
    analyzer.config = config := by
  obtain ⟨place, patterns, -, -, rfl⟩ := build_eq_ok_iff.mp built
  rfl

/-- For one root and one list of patterns, building differs in the configuration kept. -/
theorem build_eq_map
    (sameRoot :
      otherRoot.getD (.ofString other.analyzer.root) =
        root.getD (.ofString config.analyzer.root))
    (sameExclude : other.analyzer.exclude = config.analyzer.exclude) :
    build workingDirectory otherRoot rules exclude other =
      (build workingDirectory root rules exclude config).map fun analyzer =>
        { analyzer with config := other } := by
  rw [build, build, sameRoot, sameExclude]
  cases (root.getD (.ofString config.analyzer.root)).from? workingDirectory with
  | none =>
      rfl
  | some place =>
      cases (exclude ++ config.analyzer.exclude).mapM (ExcludePattern.ofText ·.toList) <;>
        rfl

section

variable
  (same : config.SameEffect other)
  (sameRoot :
    otherRoot.getD (.ofString other.analyzer.root) =
      root.getD (.ofString config.analyzer.root))
  (sameExclude : other.analyzer.exclude = config.analyzer.exclude)

include same sameRoot sameExclude

theorem map_checkDocument_of_sameEffect
    (file : Path)
    (document : Document) :
    (build workingDirectory otherRoot rules exclude other).map
        (fun analyzer => analyzer.checkDocument file document) =
      (build workingDirectory root rules exclude config).map
        (fun analyzer => analyzer.checkDocument file document) := by
  rw [build_eq_map sameRoot sameExclude]
  cases built : build workingDirectory root rules exclude config with
  | error error =>
      rfl
  | ok analyzer =>
      have sameAnswers := config_of_build built ▸ same
      exact congrArg Except.ok (checkDocument_of_sameEffect sameAnswers file document)

theorem bind_analyze_of_sameEffect
    (files : FileSystem) :
    (build workingDirectory otherRoot rules exclude other).bind
        (fun analyzer => analyzer.analyze files) =
      (build workingDirectory root rules exclude config).bind
        (fun analyzer => analyzer.analyze files) := by
  rw [build_eq_map sameRoot sameExclude]
  cases built : build workingDirectory root rules exclude config with
  | error error =>
      rfl
  | ok analyzer =>
      have sameAnswers := config_of_build built ▸ same
      exact analyze_of_sameEffect sameAnswers files

end

end Analyzer

end MarkupLint
