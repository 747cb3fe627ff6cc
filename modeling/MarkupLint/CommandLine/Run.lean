import MarkupLint.Analyzer
import MarkupLint.CommandLine.Arguments
import MarkupLint.CommandLine.ConfigSource
import MarkupLint.CommandLine.LogFilter
import MarkupLint.CommandLine.Output
import MarkupLint.Config.Template
import MarkupLint.Text.Quoted
import MarkupLint.Text.WhiteSpace

namespace MarkupLint

/-!
# Running a command

A run is a function of the command line, the environment and the files.  Its
outcome holds everything that can be seen from outside: the exit code, both
outputs, the log, and the files afterwards.
-/

/-- What the environment tells the program. -/
structure Environment where
  config : Option String := none
  configDirectory : Option String := none
  home : Option String := none
  logFilter : Option String := none
  deriving Repr, DecidableEq

namespace Environment

/-- The directory with the configuration of the user. -/
def globalDirectory? (environment : Environment) : Option Path :=
  (environment.configDirectory.map Path.ofString).or
    (environment.home.map fun home => (Path.ofString home).join (Path.ofString ".rst-lint"))

end Environment

/-- What a run does. -/
structure Outcome where
  exitCode : Nat
  output : String := ""
  error : Option String := none
  log : List LogRecord := []
  files : FileSystem
  deriving Repr

namespace Outcome

/-- A run that ends with an error. -/
def failure (files : FileSystem) (log : List LogRecord) (message : String) : Outcome where
  exitCode := 1
  error := some ("Error: " ++ message)
  log := log
  files := files

/-- An outcome with the records that a filter admits. -/
def restrictLog (filter : LogFilter) (outcome : Outcome) : Outcome :=
  { outcome with log := outcome.log.filter filter.admits }

end Outcome

namespace RuleSelection

/-- The names in a selection, which commas separate. -/
def names (selection : String) : List String :=
  (((splitAtEach ',' selection.toList).map trim).filter (!·.isEmpty)).map String.ofList

/-- The rules of a selection, in its order; names of no rule are left out. -/
def rules (selection : Option String) : List Rule :=
  match selection with
  | none => Rule.catalogue
  | some selection => (names selection).filterMap Rule.ofNameOrCode?

/-- The names in a selection that no rule has. -/
def unknown (selection : Option String) : List String :=
  match selection with
  | none => []
  | some selection => (names selection).filter fun name => (Rule.ofNameOrCode? name).isNone

end RuleSelection

/-- A path in quotes. -/
def Path.quoted (path : Path) : String :=
  String.ofList (MarkupLint.quoted path.bytes)

namespace CheckOptions

/-- The configuration of a run: groups on the command line replace the configured ones. -/
def applyTo (options : CheckOptions) (config : Config) : Config :=
  if options.groups.isEmpty then config else { config with groups := options.groups }

/-- The records on the source of the configuration. -/
def sourceLog (source : ConfigSource) : List LogRecord :=
  let resolved : LogRecord := ⟨.debug, .configuration, "Resolved " ++ source.description⟩
  match source with
  | .explicit _ => []
  | .global _ => [resolved, ⟨.info, .command, "Using " ++ source.description⟩]
  | _ => [resolved]

/-- The records on the selection of rules. -/
def selectionLog (options : CheckOptions) : List LogRecord :=
  (RuleSelection.unknown options.rules).map fun name =>
    ⟨.warning, .command, "Unknown rule: " ++ name⟩

/-- The records before the files are looked for. -/
def startLog (options : CheckOptions) (analyzer : Analyzer) : List LogRecord :=
  [⟨.info, .command, "Analyzing " ++ (Path.ofString options.path).quoted ++ " with " ++
      toString analyzer.rules.length ++ " rules"⟩,
   ⟨.info, .analysis, "Starting analysis at " ++ analyzer.root.quoted⟩]

/-- The records on the documents of a walk that are left out. -/
def exclusionLog (analyzer : Analyzer) (walked : List WalkedFile) : List LogRecord :=
  let excluded := walked.filter fun file =>
    analyzer.isDocument file.names && analyzer.isExcluded file.names
  excluded.map fun file =>
    ⟨.debug, .analysis, "Excluding: " ++ (analyzer.fullPath file.names).toString⟩

/-- The record on a rule that is not run. -/
def inactiveLog (analyzer : Analyzer) (rule : Rule) : List LogRecord :=
  if analyzer.isActive rule then
    []
  else if analyzer.config.isRuleEnabled rule.name then
    [⟨.debug, .analysis, "Skipping rule outside selected groups: " ++ rule.name⟩]
  else
    [⟨.debug, .analysis, "Skipping disabled rule: " ++ rule.name⟩]

/-- The record on a document that is about to be read. -/
def openingRecord (analyzer : Analyzer) (file : WalkedFile) : LogRecord :=
  ⟨.debug, .analysis, "Analyzing: " ++ (analyzer.fullPath file.names).toString⟩

/-- The records on one document that is read. -/
def documentLog (analyzer : Analyzer) (file : WalkedFile) : List LogRecord :=
  openingRecord analyzer file :: analyzer.rules.flatMap (inactiveLog analyzer)

/-- The records up to the reading of the first document. -/
def findingLog (analyzer : Analyzer) (walked : List WalkedFile) : List LogRecord :=
  exclusionLog analyzer walked ++
    [⟨.info, .analysis, "Found " ++ toString (analyzer.documents walked).length ++
      " files to analyze"⟩]

/-- The records on the documents of a walk up to one to which access is denied. -/
def documentsLog (analyzer : Analyzer) (walked : List WalkedFile) : List LogRecord :=
  let documents := analyzer.documents walked
  let read := documents.takeWhile (·.contents.isSome)
  read.flatMap (documentLog analyzer) ++
    (documents.drop read.length).head?.toList.map (openingRecord analyzer)

/-- The records of a finished analysis. -/
def closingLog (report : Report) : List LogRecord :=
  [⟨.info, .analysis, "Analysis complete: " ++ toString report.violations.length ++
    " violations in " ++ toString report.filesChecked ++ " files"⟩]

/-- Check the files at a path; errors in them, and a report that cannot be printed, make it fail. -/
def run (options : CheckOptions) (files : FileSystem) (source : ConfigSource) : Outcome :=
  let target := Path.ofString options.path
  let log := sourceLog source
  match source.load files with
  | .error _ =>
      .failure files log
        ("Failed to load config: " ++ ((source.path?.map Path.toString).getD ""))
  | .ok config =>
      let log := log ++ options.selectionLog
      match Analyzer.build files.workingDirectory (some target)
          (RuleSelection.rules options.rules) options.exclude (options.applyTo config) with
      | .error _ => .failure files log "Failed to build analyzer"
      | .ok analyzer =>
          let log := log ++ options.startLog analyzer
          match analyzer.walk files with
          | .error _ => .failure files log "Analysis failed"
          | .ok walked =>
              let log := log ++ findingLog analyzer walked ++ documentsLog analyzer walked
              match analyzer.conclude walked with
              | .error _ => .failure files log "Analysis failed"
              | .ok report =>
                  let log := log ++ closingLog report
                  match report.render options.format with
                  | .error error => .failure files log error.message
                  | .ok output =>
                      { exitCode := if report.hasErrors then 1 else 0
                        output := output
                        log := log
                        files := files }

end CheckOptions

namespace ConfigTemplate

/-- What is printed when the file was created. -/
def nextSteps : String :=
  "Created rst-lint.toml\n\nNext steps:\n  1. Edit rst-lint.toml to configure rules\n" ++
    "  2. Run: rst-lint check\n"

/-- Create the configuration file; an existing one is only replaced on demand. -/
def create (files : FileSystem) (force : Bool) : Outcome :=
  if files.exists? (Path.ofString fileName) && !force then
    .failure files []
      ("Configuration file already exists at " ++ fileName ++ ". Use --force to overwrite.")
  else
    match files.writeText fileName text.toList with
    | .error error => .failure files [] error.message
    | .ok files => { exitCode := 0, output := nextSteps, files := files }

end ConfigTemplate

namespace Command

/-- Run a command. -/
def run (command : Command) (config : Option String) (environment : Environment)
    (files : FileSystem) : Outcome :=
  match command with
  | check options =>
      options.run files
        (ConfigSource.resolve files (Path.ofString options.path) (config.map Path.ofString)
          environment.globalDirectory?)
  | listRules => { exitCode := 0, output := RuleTable.text, files := files }
  | init force => ConfigTemplate.create files force

end Command

namespace Interruption

/-- The overview of the program. -/
def overview : String :=
  "Style linter for reStructuredText documentation\n\n" ++
  "Usage: rst-lint [OPTIONS] <COMMAND>\n\n" ++
  "Commands:\n" ++
  "  check       Run lint checks\n" ++
  "  list-rules  List available rules\n" ++
  "  init        Initialize configuration file\n" ++
  "  help        Print this message or the help of the given subcommand(s)\n\n" ++
  "Options:\n" ++
  "  -v, --verbose          Enable verbose output\n" ++
  "  -c, --config <CONFIG>  Path to configuration file [env: RST_LINT_CONFIG=]\n" ++
  "  -h, --help             Print help\n" ++
  "  -V, --version          Print version\n"

/-- What a run does whose command line asks for no command. -/
def outcome (interruption : Interruption) (files : FileSystem) : Outcome :=
  match interruption with
  | usage error => { exitCode := 2, error := some error.text, files := files }
  | help => { exitCode := 0, output := overview, files := files }
  | helpForNothing => { exitCode := 2, error := some overview, files := files }
  | version => { exitCode := 0, output := "rst-lint 0.1.0\n", files := files }

end Interruption

/-- Run the program. -/
def runProgram (arguments : List String) (environment : Environment) (files : FileSystem) :
    Outcome :=
  match readCommandLine environment.config arguments with
  | .error interruption => interruption.outcome files
  | .ok invocation =>
      (invocation.command.run invocation.config environment files).restrictLog
        (LogFilter.ofRun environment.logFilter invocation.verbose)

end MarkupLint
