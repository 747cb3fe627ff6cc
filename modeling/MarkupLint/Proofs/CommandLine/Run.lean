import MarkupLint.CommandLine.Run
import MarkupLint.Proofs.Text.Utf8
import MarkupLint.Proofs.WalkOrder

namespace MarkupLint

/-!
# What a run shows

A run of the program that is asked to check files either prints a report, or it fails
and prints a message.  The report is the one of the analyzer that is built from the
options and the configuration.  It may still be one that cannot be printed.
-/

/-- A source whose file holds the text of a configuration gives that configuration. -/
theorem ConfigSource.load_eq_of_readBytes
    {files : FileSystem}
    {source : ConfigSource}
    {path : Path}
    {text : List Char}
    {config : Config}
    (isPath : source.path? = some path)
    (isRead : files.readBytes path = .ok (Utf8.encode text))
    (isParsed : Config.parse? text = some config) :
    source.load files = .ok config := by
  simp only [load, isPath, Config.load, FileSystem.readText, isRead, bind, Except.bind,
    Utf8.decode?_encode, Config.parse, isParsed]

namespace Outcome

/-- Whether a run prints a report, or fails with the reason why it cannot be printed. -/
def Prints
    (outcome : Outcome)
    (report : Report) :
    Except PrintError String → Prop
  | .ok text =>
      outcome.exitCode = (if report.hasErrors then 1 else 0) ∧
        outcome.output = text ∧
        outcome.error = none
  | .error error =>
      outcome.exitCode = 1 ∧
        outcome.output = "" ∧
        outcome.error = some ("Error: " ++ error.message)

/-- Whether a run shows the result of an analysis: it prints the report, or it fails. -/
def Shows
    (outcome : Outcome)
    (format : OutputFormat) :
    Except AnalyzerError Report → Prop
  | .ok report => outcome.Prints report (report.render format)
  | .error _ =>
      outcome.exitCode = 1 ∧
        outcome.output = "" ∧
        outcome.error.isSome = true

theorem shows_restrictLog
    {outcome : Outcome}
    {format : OutputFormat}
    {result : Except AnalyzerError Report}
    (filter : LogFilter)
    (shows : outcome.Shows format result) :
    (outcome.restrictLog filter).Shows format result := by
  cases result with
  | error error =>
      exact shows
  | ok report =>
      unfold Shows at shows ⊢
      cases report.render format <;>
        exact shows

end Outcome

namespace CheckOptions

/-- What the analyzer built from the options and a configuration finds. -/
def analyze
    (options : CheckOptions)
    (files : FileSystem)
    (config : Config) :
    Except AnalyzerError Report :=
  (Analyzer.build files.workingDirectory (some (.ofString options.path))
    (RuleSelection.rules options.rules) options.exclude (options.applyTo config)).bind
      fun analyzer => analyzer.analyze files

theorem analyze_of_readable
    {options : CheckOptions}
    {files : FileSystem}
    {config : Config}
    {analyzer : Analyzer}
    {walked : List WalkedFile}
    (built :
      Analyzer.build files.workingDirectory (some (.ofString options.path))
          (RuleSelection.rules options.rules) options.exclude (options.applyTo config) =
        .ok analyzer)
    (found : analyzer.walk files = .ok walked)
    (readable : ∀ file ∈ walked, analyzer.accepts file = true → file.contents ≠ none) :
    options.analyze files config = .ok (analyzer.report walked) := by
  rw [analyze, built]
  simp only [Except.bind, Analyzer.analyze, found, Analyzer.conclude_of_readable readable]

/-- A run with a configuration shows what the analyzer built from its options reports. -/
theorem shows_run
    (options : CheckOptions)
    {files : FileSystem}
    {source : ConfigSource}
    {config : Config}
    (loaded : source.load files = .ok config) :
    (options.run files source).Shows options.format (options.analyze files config) := by
  simp only [run, analyze, loaded]
  cases Analyzer.build files.workingDirectory (some (.ofString options.path))
      (RuleSelection.rules options.rules) options.exclude (options.applyTo config) with
  | error error =>
      exact ⟨rfl, rfl, rfl⟩
  | ok analyzer =>
      simp only [Except.bind, Analyzer.analyze]
      cases analyzer.walk files with
      | error error =>
          exact ⟨rfl, rfl, rfl⟩
      | ok walked =>
          simp only
          cases analyzer.conclude walked with
          | error error =>
              exact ⟨rfl, rfl, rfl⟩
          | ok report =>
              simp only [Outcome.Shows]
              cases report.render options.format <;>
                exact ⟨rfl, rfl, rfl⟩

end CheckOptions

/-- So does the program, if that is what its command line asks for. -/
theorem shows_runProgram
    {arguments : List String}
    {environment : Environment}
    {files : FileSystem}
    {verbose : Bool}
    {named : Option String}
    {options : CheckOptions}
    {config : Config}
    (isRead :
      readCommandLine environment.config arguments = .ok ⟨verbose, named, .check options⟩)
    (isLoaded :
      (ConfigSource.resolve files (.ofString options.path) (named.map Path.ofString)
        environment.globalDirectory?).load files = .ok config) :
    (runProgram arguments environment files).Shows options.format
      (options.analyze files config) := by
  rw [runProgram, isRead]
  exact Outcome.shows_restrictLog _ (options.shows_run isLoaded)

/-- The violations of a report are those of the files that are looked at. -/
theorem Analyzer.mem_violations_report_iff
    (analyzer : Analyzer)
    (walked : List WalkedFile)
    (violation : Violation) :
    violation ∈ (analyzer.report walked).violations ↔
      ∃ file ∈ walked, analyzer.accepts file = true ∧ violation ∈ analyzer.checkFile file := by
  simp only [report, (List.mergeSort_perm _ _).mem_iff, List.mem_flatMap, mem_documents_iff,
    and_assoc]

/-- A report reaches a severity if a rule does so in a file that is looked at. -/
theorem Analyzer.hasViolationsAt_report
    (analyzer : Analyzer)
    (walked : List WalkedFile)
    (threshold : Severity) :
    (analyzer.report walked).hasViolationsAt threshold =
      (walked.filter analyzer.accepts).any fun file =>
        (analyzer.checkFile file).any (·.severity.reaches threshold) := by
  rw [Report.hasViolationsAt, report,
    (List.mergeSort_perm _ _).any_eq, List.any_flatMap,
    (analyzer.documents_perm walked).any_eq]

end MarkupLint
