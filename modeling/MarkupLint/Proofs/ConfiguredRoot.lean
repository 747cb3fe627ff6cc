import MarkupLint.Proofs.CommandLine.Run
import MarkupLint.Proofs.ConfigEffect

namespace MarkupLint

/-!
# The root of a run

An analyzer takes the configured root unless it is given another one, and the command
line always gives it one: a run without a path checks the working directory.  So it
shows the report on the configured root only if that is the working directory.
-/

namespace Config

/-- The configuration with another root. -/
def withRoot
    (config : Config)
    (root : String) :
    Config :=
  { config with analyzer := { config.analyzer with root := root } }

theorem sameEffect_withRoot
    (config : Config)
    (root : String) :
    SameEffect (config.withRoot root) config :=
  ⟨rfl, fun _ => rfl, fun _ => rfl, rfl⟩

theorem withRoot_root
    (config : Config) :
    config.withRoot config.analyzer.root = config :=
  rfl

/-- The report on the configured root, with the built-in rules and the configured patterns. -/
def analyze
    (config : Config)
    (files : FileSystem) :
    Except AnalyzerError Report :=
  (Analyzer.build files.workingDirectory none Rule.catalogue [] config).bind fun analyzer =>
    analyzer.analyze files

end Config

/-- Without a path, the analyzer of a run is the one for the configuration at ".". -/
theorem shows_runProgram_check
    (files : FileSystem)
    (environment : Environment)
    {arguments : List String}
    {verbose : Bool}
    {named : Option String}
    {format : OutputFormat}
    {config : Config}
    (isRead :
      readCommandLine environment.config arguments =
        .ok ⟨verbose, named, .check { format := format }⟩)
    (isLoaded :
      (ConfigSource.resolve files (.ofString ".") (named.map Path.ofString)
        environment.globalDirectory?).load files = .ok config) :
    (runProgram arguments environment files).Shows format
      ((config.withRoot ".").analyze files) := by
  have sameResult :
      (config.withRoot ".").analyze files =
        CheckOptions.analyze { format := format } files config :=
    (Analyzer.bind_analyze_of_sameEffect (config.sameEffect_withRoot ".") rfl rfl files).symm
  rw [sameResult]
  exact shows_runProgram isRead isLoaded

namespace ConfiguredRoot

/-- A project that configures a folder without violations and has one outside of it. -/
def project : FileSystem where
  root :=
    .directory
      [("rst-lint.toml", .file (some (Utf8.encode "[analyzer]\nroot = \"docs\"\n".toList))),
        ("index.rst", .file (some (Utf8.encode "See admin.yml\n".toList))),
        ("docs", .directory [("page.rst", .file (some (Utf8.encode "fine\n".toList)))])]
  workingDirectory := some (.ofString "/")

/-- A project with an empty page and no configuration. -/
def emptyPage : FileSystem where
  root := .directory [("index.rst", .file (some []))]
  workingDirectory := some (.ofString "/")

/-- The configuration of the project. -/
def settings : Config where
  analyzer := { root := "docs", exclude := [] }

theorem readCommandLine_check :
    readCommandLine none ["check"] = .ok ⟨false, none, .check {}⟩ := by
  rfl

theorem load_project :
    (ConfigSource.resolve project (.ofString ".") none none).load project = .ok settings := by
  have parsed : Config.parse? "[analyzer]\nroot = \"docs\"\n".toList = some settings := by
    rewrite [String.toList_ofList]
    decide +kernel
  exact
    ConfigSource.load_eq_of_readBytes
      (show _ = some (.ofString "./rst-lint.toml") from rfl) rfl parsed

/-- The configured folder has no errors. -/
theorem exists_analyze_docs :
    ∃ report, settings.analyze project = .ok report ∧ report.hasErrors = false := by
  refine ⟨_, Analyzer.conclude_of_readable ?_, ?_⟩
  · decide
  · rw [Report.hasErrors, Analyzer.hasViolationsAt_report]
    rfl

/-- The working directory has one. -/
theorem exists_analyze_all :
    ∃ report, (settings.withRoot ".").analyze project = .ok report ∧ report.hasErrors = true := by
  refine ⟨_, Analyzer.conclude_of_readable ?_, ?_⟩
  · decide
  · rw [Report.hasErrors, Analyzer.hasViolationsAt_report]
    rfl

end ConfiguredRoot

/--
A run without a path shows the report on the working directory, whichever root is
configured.  It is the report on the configured root if that is the working directory.
-/
theorem check_ignores_configured_root
    (files : FileSystem)
    (environment : Environment)
    {arguments : List String}
    {verbose : Bool}
    {named : Option String}
    {format : OutputFormat}
    {config : Config}
    (isRead :
      readCommandLine environment.config arguments =
        .ok ⟨verbose, named, .check { format := format }⟩)
    (isLoaded :
      (ConfigSource.resolve files (.ofString ".") (named.map Path.ofString)
        environment.globalDirectory?).load files = .ok config) :
    (runProgram arguments environment files).Shows format
        ((config.withRoot ".").analyze files) ∧
      (config.analyzer.root = "." →
        (runProgram arguments environment files).Shows format (config.analyze files)) := by
  have shows := shows_runProgram_check files environment isRead isLoaded
  refine ⟨shows, fun atWorkingDirectory => ?_⟩
  rw [← atWorkingDirectory, config.withRoot_root] at shows
  exact shows

theorem check_ignores_configured_root_of_project :
    (runProgram ["check"] {} ConfiguredRoot.project).Shows .text
        ((ConfiguredRoot.settings.withRoot ".").analyze ConfiguredRoot.project) ∧
      (runProgram ["check"] {} ConfiguredRoot.emptyPage).Shows .text
        (Config.analyze {} ConfiguredRoot.emptyPage) := by
  have loadDefault :
      (ConfigSource.resolve ConfiguredRoot.emptyPage (.ofString ".") none none).load
        ConfiguredRoot.emptyPage = .ok {} := by
    rfl
  exact
    ⟨(check_ignores_configured_root _ {} ConfiguredRoot.readCommandLine_check
        ConfiguredRoot.load_project).1,
      (check_ignores_configured_root _ {} ConfiguredRoot.readCommandLine_check
        loadDefault).2 rfl⟩

/-- The run fails on a page outside of the configured folder, in which nothing is wrong. -/
theorem check_differs_from_configured_root :
    ¬ ∀ (files : FileSystem) (environment : Environment) (arguments : List String)
        (verbose : Bool) (named : Option String) (format : OutputFormat) (config : Config),
        readCommandLine environment.config arguments =
          .ok ⟨verbose, named, .check { format := format }⟩ →
        (ConfigSource.resolve files (.ofString ".") (named.map Path.ofString)
          environment.globalDirectory?).load files = .ok config →
        (runProgram arguments environment files).Shows format (config.analyze files) := by
  intro honours
  have expected :=
    honours ConfiguredRoot.project {} ["check"] false none .text ConfiguredRoot.settings
      ConfiguredRoot.readCommandLine_check ConfiguredRoot.load_project
  have actual :=
    shows_runProgram_check ConfiguredRoot.project {} ConfiguredRoot.readCommandLine_check
      ConfiguredRoot.load_project
  obtain ⟨report, analyzed, noErrors⟩ := ConfiguredRoot.exists_analyze_docs
  obtain ⟨otherReport, otherAnalyzed, errors⟩ := ConfiguredRoot.exists_analyze_all
  rw [analyzed] at expected
  rw [otherAnalyzed] at actual
  have exitCodes := expected.1.symm.trans actual.1
  rw [noErrors, errors] at exitCodes
  cases exitCodes

end MarkupLint
