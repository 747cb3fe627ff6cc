import MarkupLint.Config
import MarkupLint.Files.ExcludePattern
import MarkupLint.Files.Walk
import MarkupLint.Report

namespace MarkupLint

/-!
# The analyzer

An analyzer has a root, a list of rules, exclude patterns and a configuration.
`checkDocument` runs the rules over one document, `report` over all files of a
walk, and `analyze` walks the root first and reads what it finds.
-/

/-- Everything that decides what a run reports. -/
structure Analyzer where
  root : Path
  rules : List Rule
  exclude : List ExcludePattern
  config : Config

/-- Why an analysis fails. -/
inductive AnalyzerError where
  | noWorkingDirectory (error : FileError)
  | unreadable (path : Path) (error : FileError)
  | walk (error : WalkError)
  | pattern (error : PatternError)
  deriving Repr, DecidableEq

namespace AnalyzerError

/-- The description of an error. -/
def message : AnalyzerError → String
  | noWorkingDirectory error => "IO error: " ++ error.message
  | unreadable path error => "Failed to read " ++ path.toString ++ ": " ++ error.message
  | walk error => "Failed to walk directory: " ++ error.message
  | pattern error => "Invalid glob pattern: " ++ error.message

end AnalyzerError

/-- Order lists by their first difference, a shorter list first. -/
def lexLe [DecidableEq α] (le : α → α → Bool) : List α → List α → Bool
  | [], _ => true
  | _ :: _, [] => false
  | item :: items, other :: others =>
      if item = other then
        lexLe le items others
      else
        le item other

/-- Order names byte by byte. -/
def FileName.le (name other : FileName) : Bool :=
  lexLe (fun byte otherByte => Nat.ble byte.toNat otherByte.toNat) name.bytes other.bytes

/-- Order lists of names by the first name in which they differ. -/
def namesLe : List FileName → List FileName → Bool :=
  lexLe FileName.le

/-- Order violations by the names of their file, then by line. -/
def Violation.le (violation other : Violation) : Bool :=
  let names := violation.location.file.names
  let otherNames := other.location.file.names
  if names = otherNames then
    Nat.ble violation.location.line other.location.line
  else
    namesLe names otherNames

namespace Analyzer

/-- The extension of the files that hold documents. -/
def documentExtension : FileName := "rst"

/--
An analyzer of a root, which the configuration gives unless it is given here; a
relative one lies in the working directory.  The patterns of the configuration come
after the ones given here.
-/
def build (workingDirectory : Option Path) (root : Option Path) (rules : List Rule)
    (exclude : List String) (config : Config) : Except AnalyzerError Analyzer :=
  match (root.getD (Path.ofString config.analyzer.root)).from? workingDirectory with
  | none => .error (.noWorkingDirectory .notFound)
  | some root =>
      match (exclude ++ config.analyzer.exclude).mapM (ExcludePattern.ofText ·.toList) with
      | .ok patterns => .ok ⟨root, rules, patterns, config⟩
      | .error error => .error (.pattern error)

/-- Whether a rule is enabled and belongs to a selected group. -/
def isActive (analyzer : Analyzer) (rule : Rule) : Bool :=
  analyzer.config.isRuleEnabled rule.name && analyzer.config.isGroupSelected rule.groups

/-- The rules that are run. -/
def activeRules (analyzer : Analyzer) : List Rule :=
  analyzer.rules.filter analyzer.isActive

/-- The violation of a rule at a line, if there is one. -/
def violation? (analyzer : Analyzer) (file : Path) (document : Document) (index : Nat)
    (rule : Rule) : Option Violation :=
  (rule.check document index).map fun message =>
    { code := rule.code
      rule := rule.name
      severity := (analyzer.config.ruleSeverity? rule.name).getD rule.severity
      location := .ofIndex file index
      message := message }

/-- The violations of a document, line by line and rule by rule. -/
def checkDocument (analyzer : Analyzer) (file : Path) (document : Document) :
    List Violation :=
  (List.range document.size).flatMap fun index =>
    analyzer.activeRules.filterMap (analyzer.violation? file document index)

/-- The path of a file that names lead to from the root. -/
def fullPath (analyzer : Analyzer) (names : List FileName) : Path :=
  analyzer.root.below names

/-- How a file is called in a report: relative to the root, which goes by its own name. -/
def label (analyzer : Analyzer) (names : List FileName) : Path :=
  match names with
  | [] => (analyzer.root.fileName?.map fun name => Path.ofNames [name]).getD analyzer.root
  | names => Path.ofNames names

/-- Whether the name of a file marks a document. -/
def isDocument (analyzer : Analyzer) (names : List FileName) : Bool :=
  match (analyzer.fullPath names).fileName? with
  | none => false
  | some name => name.extension? == some documentExtension

/-- Whether a pattern describes a file by its relative or by its full path. -/
def isExcluded (analyzer : Analyzer) (names : List FileName) : Bool :=
  analyzer.exclude.any fun pattern =>
    pattern.isPathMatch (analyzer.label names) || pattern.isPathMatch (analyzer.fullPath names)

/-- Whether a file of the walk is looked at. -/
def accepts (analyzer : Analyzer) (file : WalkedFile) : Bool :=
  analyzer.isDocument file.names && !analyzer.isExcluded file.names

/-- The files that are looked at, in the order of their names. -/
def documents (analyzer : Analyzer) (walked : List WalkedFile) : List WalkedFile :=
  (walked.filter analyzer.accepts).mergeSort fun file other => namesLe file.names other.names

/-- The violations in a file of the walk. -/
def checkFile (analyzer : Analyzer) (file : WalkedFile) : List Violation :=
  analyzer.checkDocument (analyzer.label file.names)
    (Document.ofText (Utf8.decodeLossy file.bytes))

/-- The report on the files of a walk. -/
def report (analyzer : Analyzer) (walked : List WalkedFile) : Report :=
  let documents := analyzer.documents walked
  ⟨(documents.flatMap analyzer.checkFile).mergeSort Violation.le, documents.length⟩

/-- All files below the root. -/
def walk (analyzer : Analyzer) (files : FileSystem) : Except AnalyzerError (List WalkedFile) :=
  (files.walk analyzer.root analyzer.config.analyzer.respectGitignore).mapError .walk

/-- The first document to which access is denied. -/
def denied? (analyzer : Analyzer) (walked : List WalkedFile) : Option WalkedFile :=
  (analyzer.documents walked).find? (·.contents.isNone)

/-- The report on the files of a walk, provided that all documents can be read. -/
def conclude (analyzer : Analyzer) (walked : List WalkedFile) : Except AnalyzerError Report :=
  match analyzer.denied? walked with
  | some file => .error (.unreadable (analyzer.fullPath file.names) .permissionDenied)
  | none => .ok (analyzer.report walked)

/-- The report on the files below the root. -/
def analyze (analyzer : Analyzer) (files : FileSystem) : Except AnalyzerError Report :=
  (analyzer.walk files).bind analyzer.conclude

end Analyzer

end MarkupLint
