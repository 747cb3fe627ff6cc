import Mathlib.Data.List.Basic
import MarkupLint.Analyzer
import MarkupLint.Rule.Catalogue

namespace MarkupLint

/-!
# What a configuration does to a check

A configuration takes part in the check of a document in two ways only: it drops
rules, and it puts other severities on what the remaining rules report.  Neither
depends on the document.
-/

/--
The configuration lets a rule run: no settings under its name switch it off, and
it belongs to a configured group unless none is configured.
-/
def Config.Admits
    (config : Config)
    (rule : Rule) : Prop :=
  (∀ settings,
      config.settings? rule.name = some settings →
      settings.enabled ≠ some false) ∧
    (config.groups = [] ∨ ∃ group ∈ rule.groups, group ∈ config.groups)

/-- The violation with the severity that the configuration sets for its rule, if it sets one. -/
def Violation.relabelled
    (config : Config)
    (violation : Violation) :
    Violation :=
  match config.ruleSeverity? violation.rule with
  | some severity => { violation with severity := severity }
  | none => violation

/-- What a violation says apart from its file and its severity. -/
def Violation.finding
    (violation : Violation) :
    Nat × String × String × String :=
  (violation.location.line, violation.code, violation.rule, violation.message)

@[simp] theorem Violation.finding_relabelled
    (config : Config)
    (violation : Violation) :
    (violation.relabelled config).finding = violation.finding := by
  unfold relabelled
  cases config.ruleSeverity? violation.rule <;>
    rfl

namespace Config

theorem isRuleEnabled_iff
    {config : Config}
    {name : String} :
    config.isRuleEnabled name = true ↔
      ∀ settings,
        config.settings? name = some settings →
        settings.enabled ≠ some false := by
  unfold isRuleEnabled
  cases config.settings? name with
  | none =>
      simp
  | some settings =>
      cases enabled : settings.enabled with
      | none =>
          simp [enabled]
      | some value =>
          cases value <;>
            simp [enabled]

theorem isGroupSelected_iff
    {config : Config}
    {groups : List RuleGroup} :
    config.isGroupSelected groups = true ↔
      config.groups = [] ∨ ∃ group ∈ groups, group ∈ config.groups := by
  simp [isGroupSelected]

theorem admits_iff
    {config : Config}
    {rule : Rule} :
    config.Admits rule ↔
      (config.isRuleEnabled rule.name && config.isGroupSelected rule.groups) = true := by
  rw [Bool.and_eq_true, isRuleEnabled_iff, isGroupSelected_iff, Admits]

instance
    (config : Config) :
    DecidablePred config.Admits :=
  fun _ => decidable_of_iff _ admits_iff.symm

/-- The settings of the given rules; those of all other names are dropped. -/
def restrictedTo
    (config : Config)
    (rules : List Rule) :
    Config :=
  { config with
    rules := config.rules.filter fun entry => rules.any fun rule => rule.name == entry.1 }

theorem settings?_restrictedTo
    (config : Config)
    {rules : List Rule}
    {rule : Rule}
    (registered : rule ∈ rules) :
    (config.restrictedTo rules).settings? rule.name = config.settings? rule.name := by
  rw [settings?, settings?, restrictedTo, List.find?_filter]
  congr 2
  funext entry
  by_cases same : entry.1 = rule.name
  · have isNamed : ∃ other ∈ rules, other.name = rule.name :=
      ⟨rule, registered, rfl⟩
    simp [same, isNamed]
  · simp [same]

end Config

namespace Analyzer

/-- An analyzer is built from a root that can be made absolute and from readable patterns. -/
theorem build_eq_ok_iff
    {workingDirectory : Option Path}
    {root : Option Path}
    {rules : List Rule}
    {exclude : List String}
    {config : Config}
    {analyzer : Analyzer} :
    build workingDirectory root rules exclude config = .ok analyzer ↔
      ∃ place patterns,
        (root.getD (Path.ofString config.analyzer.root)).from? workingDirectory = some place ∧
          (exclude ++ config.analyzer.exclude).mapM (ExcludePattern.ofText ·.toList) =
            .ok patterns ∧
          analyzer = ⟨place, rules, patterns, config⟩ := by
  rw [build]
  cases (root.getD (Path.ofString config.analyzer.root)).from? workingDirectory with
  | none =>
      simp
  | some place =>
      cases (exclude ++ config.analyzer.exclude).mapM (ExcludePattern.ofText ·.toList) with
      | error error =>
          simp
      | ok patterns =>
          simp [eq_comm]

theorem activeRules_eq_filter_admits
    (analyzer : Analyzer) :
    analyzer.activeRules = analyzer.rules.filter analyzer.config.Admits := by
  apply List.filter_congr
  intro rule _
  rw [Bool.eq_iff_iff, decide_eq_true_iff, Config.admits_iff]
  rfl

theorem activeRules_default_config
    (analyzer : Analyzer)
    (rules : List Rule) :
    activeRules { analyzer with rules := rules, config := {} } = rules := by
  rw [activeRules, List.filter_eq_self]
  intro rule _
  rfl

/-- A configuration changes nothing but the severity of what a rule reports. -/
theorem violation?_eq_map_relabelled
    (analyzer : Analyzer)
    (rules : List Rule)
    (file : Path)
    (document : Document)
    (index : Nat)
    (rule : Rule) :
    analyzer.violation? file document index rule =
      (violation? { analyzer with rules := rules, config := {} }
        file document index rule).map (Violation.relabelled analyzer.config) := by
  rw [violation?, violation?, Option.map_map]
  congr 1
  funext message
  simp only [Function.comp, Violation.relabelled]
  cases analyzer.config.ruleSeverity? rule.name <;>
    rfl

theorem checkDocument_eq_map_relabelled
    (analyzer : Analyzer)
    (file : Path)
    (document : Document) :
    analyzer.checkDocument file document =
      (checkDocument
        { analyzer with
          rules := analyzer.rules.filter analyzer.config.Admits
          config := {} }
        file document).map (Violation.relabelled analyzer.config) := by
  rw [checkDocument, checkDocument, List.map_flatMap, activeRules_default_config,
    activeRules_eq_filter_admits]
  apply List.flatMap_congr
  intro index _
  rw [List.map_filterMap]
  apply List.filterMap_congr
  intro rule _
  exact analyzer.violation?_eq_map_relabelled _ file document index rule

/-- What is found depends on which rules are admitted, and on nothing else in a configuration. -/
theorem map_finding_checkDocument
    (analyzer : Analyzer)
    (file : Path)
    (document : Document) :
    (analyzer.checkDocument file document).map Violation.finding =
      (checkDocument
        { analyzer with
          rules := analyzer.rules.filter analyzer.config.Admits
          config := {} }
        file document).map Violation.finding := by
  rw [checkDocument_eq_map_relabelled, List.map_map]
  apply List.map_congr_left
  intro violation _
  exact Violation.finding_relabelled analyzer.config violation

theorem filter_admits_congr
    {config other : Config}
    {rules : List Rule}
    (sameGroups : other.groups = config.groups)
    (sameEnabled :
      ∀ rule ∈ rules, other.isRuleEnabled rule.name = config.isRuleEnabled rule.name) :
    rules.filter other.Admits = rules.filter config.Admits := by
  apply List.filter_congr
  intro rule registered
  rw [Bool.eq_iff_iff, decide_eq_true_iff, decide_eq_true_iff, Config.admits_iff,
    Config.admits_iff, sameEnabled rule registered, Config.isGroupSelected,
    Config.isGroupSelected, sameGroups]

/-- Only the settings under the names of registered rules are read. -/
theorem checkDocument_congr_settings
    (analyzer : Analyzer)
    {other : Config}
    (sameGroups : other.groups = analyzer.config.groups)
    (sameSettings :
      ∀ rule ∈ analyzer.rules,
        other.settings? rule.name = analyzer.config.settings? rule.name)
    (file : Path)
    (document : Document) :
    checkDocument { analyzer with config := other } file document =
      analyzer.checkDocument file document := by
  have sameEnabled :
      ∀ rule ∈ analyzer.rules,
        other.isRuleEnabled rule.name = analyzer.config.isRuleEnabled rule.name := by
    intro rule registered
    rw [Config.isRuleEnabled, Config.isRuleEnabled, sameSettings rule registered]
  have sameRules :
      activeRules { analyzer with config := other } = analyzer.activeRules := by
    rw [activeRules_eq_filter_admits, activeRules_eq_filter_admits]
    exact filter_admits_congr sameGroups sameEnabled
  rw [checkDocument, checkDocument, sameRules]
  apply List.flatMap_congr
  intro index _
  apply List.filterMap_congr
  intro rule active
  have registered : rule ∈ analyzer.rules :=
    (List.mem_filter.mp active).1
  rw [violation?, violation?, Config.ruleSeverity?, Config.ruleSeverity?,
    sameSettings rule registered]

/--
A configuration is a filter on the rules and a relabelling of severities.  What is
found, apart from severities, is the same under every configuration with the same
groups that enables the same rules, and settings under the name of no registered
rule change nothing.
-/
theorem checkDocument_filters_and_relabels
    (analyzer : Analyzer)
    (file : Path)
    (document : Document) :
    analyzer.checkDocument file document =
        (checkDocument
          { analyzer with
            rules := analyzer.rules.filter analyzer.config.Admits
            config := {} }
          file document).map (Violation.relabelled analyzer.config) ∧
      (∀ other : Config,
        other.groups = analyzer.config.groups →
        (∀ rule ∈ analyzer.rules,
          other.isRuleEnabled rule.name = analyzer.config.isRuleEnabled rule.name) →
        (checkDocument { analyzer with config := other } file document).map
            Violation.finding =
          (analyzer.checkDocument file document).map Violation.finding) ∧
      checkDocument
          { analyzer with config := analyzer.config.restrictedTo analyzer.rules }
          file document =
        analyzer.checkDocument file document := by
  refine ⟨checkDocument_eq_map_relabelled analyzer file document, ?_, ?_⟩
  · intro other sameGroups sameEnabled
    rw [map_finding_checkDocument, map_finding_checkDocument analyzer]
    simp only [filter_admits_congr sameGroups sameEnabled]
  · apply checkDocument_congr_settings
    · rfl
    · intro rule registered
      exact analyzer.config.settings?_restrictedTo registered

/--
A configuration for one group: the rule of the other group is dropped, both copies
of the PHP rule are relabelled, and taking the severity back changes no finding.
-/
theorem checkDocument_filters_and_relabels_in_page :
    (checkDocument
        ⟨.ofString "/docs",
          [ExplicitPhpBlock.rule .error, LegacyAdminFile.rule, ExplicitPhpBlock.rule .info], [],
          { groups := [.symfony]
            rules :=
              [("no-explicit-use-of-code-block-php", { severity := some .warning }),
                ("no-tabs", { enabled := some false })] }⟩
        "index.rst" (.ofText "admin.yml\n\n  .. code-block:: php".toList)).map
          (fun violation => (violation.location.line, violation.severity)) =
        [(3, .warning), (3, .warning)] ∧
      (checkDocument
          ⟨.ofString "/docs",
            [ExplicitPhpBlock.rule .error, LegacyAdminFile.rule, ExplicitPhpBlock.rule .info],
            [], { groups := [.symfony] }⟩
          "index.rst" (.ofText "admin.yml\n\n  .. code-block:: php".toList)).map
            Violation.finding =
        (checkDocument
          ⟨.ofString "/docs",
            [ExplicitPhpBlock.rule .error, LegacyAdminFile.rule, ExplicitPhpBlock.rule .info], [],
            { groups := [.symfony]
              rules :=
                [("no-explicit-use-of-code-block-php", { severity := some .warning }),
                  ("no-tabs", { enabled := some false })] }⟩
          "index.rst" (.ofText "admin.yml\n\n  .. code-block:: php".toList)).map
            Violation.finding :=
  ⟨by decide,
    (checkDocument_filters_and_relabels
      ⟨.ofString "/docs",
        [ExplicitPhpBlock.rule .error, LegacyAdminFile.rule, ExplicitPhpBlock.rule .info], [],
        { groups := [.symfony]
          rules :=
            [("no-explicit-use-of-code-block-php", { severity := some .warning }),
              ("no-tabs", { enabled := some false })] }⟩
      "index.rst" (.ofText "admin.yml\n\n  .. code-block:: php".toList)).2.1
        { groups := [.symfony] } rfl (by decide)⟩

end Analyzer

end MarkupLint
