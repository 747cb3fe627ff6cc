import MarkupLint.Proofs.CommandLine.Run
import MarkupLint.Proofs.Report.ReadBack

namespace MarkupLint

/-!
# Exit code, totals and colour

What a report says about its severities is worked out four times: a test against a
threshold, three totals, the exit code of the run, and the colour of the summary.
They agree since a threshold test counts: the totals of the severities that reach a
threshold add up to the number of violations that reach it.

The exit code says more than the report in one case.  A report on a file whose path is
no text cannot be printed as JSON, and a run that has to do so fails.
-/

namespace Report

/-- The total of a severity and all more serious ones. -/
def countAtLeast
    (report : Report) :
    Severity →
      Nat
  | .info => report.count .info + report.count .warning + report.count .error
  | .warning => report.count .warning + report.count .error
  | .error => report.count .error

/-- One more violation adds one to the total of its severity. -/
theorem count_cons
    (violation : Violation)
    (rest : List Violation)
    (filesChecked : Nat)
    (severity : Severity) :
    count ⟨violation :: rest, filesChecked⟩ severity =
      count ⟨rest, filesChecked⟩ severity +
        if violation.severity == severity then 1 else 0 := by
  simp only [count, List.countP_cons]

/--
It adds one to the totals at the thresholds that it reaches, as it is counted under its
own severity only.
-/
theorem countAtLeast_cons
    (violation : Violation)
    (rest : List Violation)
    (filesChecked : Nat)
    (threshold : Severity) :
    countAtLeast ⟨violation :: rest, filesChecked⟩ threshold =
      countAtLeast ⟨rest, filesChecked⟩ threshold +
        if violation.severity.reaches threshold then 1 else 0 := by
  cases threshold <;>
    simp only [countAtLeast, count_cons] <;>
      cases violation.severity <;>
        simp [Severity.reaches, Severity.rank] <;>
          omega

/-- The totals count each violation that reaches the threshold once. -/
theorem countAtLeast_eq_countP
    (report : Report)
    (threshold : Severity) :
    report.countAtLeast threshold =
      report.violations.countP (·.severity.reaches threshold) := by
  obtain ⟨violations, filesChecked⟩ := report
  induction violations with
  | nil =>
      cases threshold <;>
        rfl
  | cons violation rest inductionHypothesis =>
      rw [countAtLeast_cons, inductionHypothesis, List.countP_cons]

/-- A threshold is reached if the severities that reach it have violations. -/
theorem hasViolationsAt_iff
    (report : Report)
    (threshold : Severity) :
    report.hasViolationsAt threshold = true ↔ 0 < report.countAtLeast threshold := by
  rw [countAtLeast_eq_countP, List.countP_pos_iff, hasViolationsAt, List.any_eq_true]

/-- Every severity reaches the mildest one, so the totals add up to all violations. -/
theorem count_add_count_add_count
    (report : Report) :
    report.count .error + report.count .warning + report.count .info =
      report.violations.length := by
  have reachesInfo :
      report.countAtLeast .info = report.violations.length := by
    rw [countAtLeast_eq_countP]
    exact List.countP_eq_length.mpr fun _ _ => rfl
  rw [← reachesInfo, countAtLeast]
  omega

/-- A report has errors if their total is positive. -/
theorem hasErrors_iff
    (report : Report) :
    report.hasErrors = true ↔ 0 < report.count .error := by
  rw [hasErrors, hasViolationsAt_iff, countAtLeast]

/-- The colours of a summary. -/
inductive Colour where
  | red
  | yellow
  | green
  deriving Repr, DecidableEq

/-- The control sequence that switches to a colour. -/
def Colour.sequence : Colour → String
  | red => "\x1b[31m"
  | yellow => "\x1b[33m"
  | green => "\x1b[32m"

/-- A text starts with the control sequence of one colour only. -/
theorem Colour.sequence_isPrefix_iff
    (colour other : Colour)
    (text : List Char) :
    colour.sequence.toList <+: other.sequence.toList ++ text ↔ colour = other := by
  cases colour <;>
    cases other <;>
      simp [sequence]

/-- The colour that the totals call for. -/
def shade
    (report : Report) :
    Colour :=
  if 0 < report.count .error then
    .red
  else if 0 < report.count .warning then
    .yellow
  else
    .green

theorem colour_eq_shade
    (report : Report) :
    report.colour = report.shade.sequence := by
  simp only [colour, hasViolationsAt_iff, countAtLeast, shade]
  by_cases errors : 0 < report.count .error
  · simp [errors, Colour.sequence]
  · have noErrors : report.count .error = 0 :=
      Nat.eq_zero_of_not_pos errors
    by_cases warnings : 0 < report.count .warning <;>
      simp [noErrors, warnings, Colour.sequence]

/-- The summary is shown in a colour. -/
def IsShownIn
    (report : Report)
    (colour : Colour) : Prop :=
  colour.sequence.toList <+: report.summary.toList

theorem isShownIn_iff
    (report : Report)
    (colour : Colour) :
    report.IsShownIn colour ↔ colour = report.shade := by
  simp only [IsShownIn, summary, colour_eq_shade, String.toList_append, List.append_assoc]
  exact colour.sequence_isPrefix_iff _ _

/-- A report can be printed in every format, but as JSON only if its paths are texts. -/
theorem exists_render_iff
    {report : Report}
    {format : OutputFormat} :
    (∃ text, report.render format = .ok text) ↔ (format = .json → report.HasTextPaths) := by
  cases format with
  | text =>
      simp [render]
  | compact =>
      simp [render]
  | json =>
      rw [← exists_toJson_iff, render]
      cases report.toJson <;>
        simp [Except.map]

theorem render_json_of_not_hasTextPaths
    {report : Report}
    (notText : ¬ report.HasTextPaths) :
    report.render .json = .error .pathNotText := by
  cases rendered : report.render .json with
  | ok text =>
      exact absurd (exists_render_iff.mp ⟨text, rendered⟩ rfl) notText
  | error error =>
      cases error
      rfl

/-- The program is run to check files with the options, and comes to the report. -/
def IsFoundBy
    (report : Report)
    (arguments : List String)
    (environment : Environment)
    (files : FileSystem)
    (options : CheckOptions) : Prop :=
  ∃ verbose named config,
    readCommandLine environment.config arguments = .ok ⟨verbose, named, .check options⟩ ∧
      (ConfigSource.resolve files (.ofString options.path) (named.map Path.ofString)
        environment.globalDirectory?).load files = .ok config ∧
      options.analyze files config = .ok report

theorem IsFoundBy.shows
    {report : Report}
    {arguments : List String}
    {environment : Environment}
    {files : FileSystem}
    {options : CheckOptions}
    (isFound : report.IsFoundBy arguments environment files options) :
    (runProgram arguments environment files).Shows options.format (.ok report) := by
  obtain ⟨verbose, named, config, isRead, isLoaded, analyzed⟩ := isFound
  rw [← analyzed]
  exact shows_runProgram isRead isLoaded

section

variable
  {report : Report}
  {arguments : List String}
  {environment : Environment}
  {files : FileSystem}
  {options : CheckOptions}
  (isFound : report.IsFoundBy arguments environment files options)

include isFound

/-- A run that can print its report does so and exits with one exactly if there are errors. -/
theorem IsFoundBy.prints
    (printable : options.format = .json → report.HasTextPaths) :
    (runProgram arguments environment files).exitCode =
        (if 0 < report.count .error then 1 else 0) ∧
      (runProgram arguments environment files).error = none ∧
      report.render options.format = .ok (runProgram arguments environment files).output := by
  have shows := isFound.shows
  obtain ⟨text, rendered⟩ := exists_render_iff.mpr printable
  rw [Outcome.Shows, rendered] at shows
  obtain ⟨exits, prints, noError⟩ := shows
  refine ⟨?_, noError, ?_⟩
  · simpa only [hasErrors_iff] using exits
  · rw [rendered, prints]

/-- A run that cannot print its report fails, whatever is in the report. -/
theorem IsFoundBy.fails
    (isJson : options.format = .json)
    (notText : ¬ report.HasTextPaths) :
    (runProgram arguments environment files).exitCode = 1 ∧
      (runProgram arguments environment files).output = "" ∧
      (runProgram arguments environment files).error =
        some "Error: path contains invalid UTF-8 characters" := by
  have shows := isFound.shows
  rw [Outcome.Shows, isJson, render_json_of_not_hasTextPaths notText] at shows
  exact shows

end

/--
The totals of a report add up to its violations, and a threshold is reached if the
severities that reach it have violations.  A run that comes to the report exits with
one exactly if there are errors, in every format, unless the report has to be printed as
JSON and the path of one of its files is no text: such a run fails.  The summary is red
exactly if there are errors, yellow if there are warnings and no errors, and green
otherwise.
-/
theorem exit_totals_and_colour_agree
    (report : Report) :
    report.count .error + report.count .warning + report.count .info =
        report.violations.length ∧
    (∀ threshold,
      report.hasViolationsAt threshold = true ↔ 0 < report.countAtLeast threshold) ∧
    (∀ arguments environment files options,
      report.IsFoundBy arguments environment files options →
      ((options.format = .json → report.HasTextPaths) →
        (runProgram arguments environment files).exitCode =
            (if 0 < report.count .error then 1 else 0) ∧
          (runProgram arguments environment files).error = none ∧
          (options.format = .text →
            ∃ rows,
              (runProgram arguments environment files).output =
                rows ++ report.summary ++ "\n")) ∧
      (options.format = .json →
        ¬ report.HasTextPaths →
        (runProgram arguments environment files).exitCode = 1 ∧
          (runProgram arguments environment files).output = "" ∧
          (runProgram arguments environment files).error =
            some "Error: path contains invalid UTF-8 characters")) ∧
    (report.IsShownIn .red ↔ 0 < report.count .error) ∧
    (report.IsShownIn .yellow ↔ report.count .error = 0 ∧ 0 < report.count .warning) ∧
    (report.IsShownIn .green ↔ report.count .error = 0 ∧ report.count .warning = 0) := by
  refine
    ⟨report.count_add_count_add_count, report.hasViolationsAt_iff, ?_, ?_, ?_, ?_⟩
  · intro arguments environment files options isFound
    refine ⟨fun printable => ?_, isFound.fails⟩
    obtain ⟨exits, noError, prints⟩ := isFound.prints printable
    refine ⟨exits, noError, fun isText => ?_⟩
    rw [isText] at prints
    exact ⟨_, (Except.ok.inj prints).symm⟩
  all_goals
    rw [isShownIn_iff, shade]
    grind

/-- A configuration that makes the violations of one rule warnings, and excludes no files. -/
def mildText : String :=
  "[analyzer]\n[rules.no-admin-yaml]\nseverity = \"warning\"\n"

/-- The settings in the text. -/
def mildSettings : Config where
  analyzer := { exclude := [] }
  rules := [("no-admin-yaml", { severity := some .warning })]

/-- The files of a folder with that configuration and a page that violates the rule. -/
def mildFiles
    (page : FileName) : List WalkedFile :=
  [⟨["rst-lint.toml"], some (Utf8.encode mildText.toList)⟩,
    ⟨[page], some (Utf8.encode "See admin.yml\n".toList)⟩]

/-- The folder. -/
def mildFolder
    (page : FileName) : FileSystem where
  root :=
    .directory
      [("rst-lint.toml", .file (some (Utf8.encode mildText.toList))),
        (page, .file (some (Utf8.encode "See admin.yml\n".toList)))]
  workingDirectory := some (.ofString "/")

/-- The analyzer of the folder. -/
def mildAnalyzer : Analyzer where
  root := .ofString "/."
  rules := Rule.catalogue
  exclude := []
  config := mildSettings

/-- The name of a page that is no text. -/
def oddName : FileName :=
  ⟨0xFF :: Utf8.encode ".rst".toList⟩

theorem load_mildFolder
    (page : FileName) :
    (ConfigSource.resolve (mildFolder page) (.ofString ".") none none).load (mildFolder page) =
      .ok mildSettings := by
  have parsed : Config.parse? mildText.toList = some mildSettings := by
    rw [mildText]
    rewrite [String.toList_ofList]
    decide +kernel
  exact
    ConfigSource.load_eq_of_readBytes
      (show _ = some (.ofString "./rst-lint.toml") from rfl) rfl parsed

/-- In the folder there are warnings and no errors, whether or not the name is a text. -/
theorem hasViolationsAt_mildFiles
    {page : FileName}
    (isPage : page = "index.rst" ∨ page = oddName)
    (threshold : Severity) :
    (mildAnalyzer.report (mildFiles page)).hasViolationsAt threshold =
      decide (threshold ≠ .error) := by
  rw [Analyzer.hasViolationsAt_report]
  rcases isPage with rfl | rfl <;>
    cases threshold <;>
      rfl

theorem file_of_mem_mildFiles
    {page : FileName}
    {violation : Violation}
    (member : violation ∈ (mildAnalyzer.report (mildFiles page)).violations) :
    violation.location.file = .ofNames [page] := by
  obtain ⟨file, inFolder, accepted, found⟩ :=
    (mildAnalyzer.mem_violations_report_iff _ violation).mp member
  have label := Analyzer.file_of_mem_checkDocument found
  simp only [mildFiles, List.mem_cons, List.not_mem_nil, or_false] at inFolder
  rcases inFolder with rfl | rfl
  · exact absurd accepted (by decide)
  · exact label

/-- What a run in the folder comes to. -/
theorem exists_isFoundBy_mildFolder
    {page : FileName}
    (isPage : page = "index.rst" ∨ page = oddName)
    {arguments : List String}
    {format : OutputFormat}
    (isRead : readCommandLine none arguments = .ok ⟨false, none, .check { format := format }⟩) :
    ∃ report : Report,
      report.IsFoundBy arguments {} (mildFolder page) { format := format } ∧
        report.count .error = 0 ∧
        0 < report.count .warning ∧
        ∀ violation ∈ report.violations, violation.location.file = .ofNames [page] := by
  have built :
      Analyzer.build (some (.ofString "/")) (some (.ofString ".")) Rule.catalogue []
          mildSettings =
        .ok mildAnalyzer :=
    rfl
  have walked : mildAnalyzer.walk (mildFolder page) = .ok (mildFiles page) := by
    rcases isPage with rfl | rfl <;>
      rfl
  have analyzed :
      CheckOptions.analyze { format := format } (mildFolder page) mildSettings =
        .ok (mildAnalyzer.report (mildFiles page)) :=
    CheckOptions.analyze_of_readable built walked (by simp [mildFiles])
  have noErrors := hasViolationsAt_mildFiles isPage .error
  rw [decide_eq_false (by simp), ← Bool.not_eq_true, hasViolationsAt_iff, countAtLeast]
    at noErrors
  have warned := hasViolationsAt_mildFiles isPage .warning
  rw [decide_eq_true (by simp), hasViolationsAt_iff, countAtLeast] at warned
  exact
    ⟨_, ⟨false, none, mildSettings, isRead, load_mildFolder page, analyzed⟩, by omega, by omega,
      fun _ => file_of_mem_mildFiles⟩

theorem readCommandLine_json :
    readCommandLine none ["check", "--format", "json"] =
      .ok ⟨false, none, .check { format := .json }⟩ := by
  rfl

theorem not_hasTextPaths_of_oddName
    {report : Report}
    (warned : 0 < report.count .warning)
    (located : ∀ violation ∈ report.violations, violation.location.file = .ofNames [oddName]) :
    ¬ report.HasTextPaths := by
  intro hasTextPaths
  obtain ⟨violation, member, -⟩ := List.countP_pos_iff.mp warned
  obtain ⟨text, isText⟩ := hasTextPaths violation member
  have noText : (Path.ofNames [oddName]).text? = none := by
    decide
  rw [← located violation member, Path.text?_eq_some_iff.mpr isText] at noText
  cases noText

/--
A page with a text as its name, and one without, each with a warning.  The second cannot
be printed as JSON, but for people.
-/
theorem exit_totals_and_colour_agree_in_folder :
    (∃ report : Report,
      report.IsFoundBy ["check", "--format", "json"] {} (mildFolder "index.rst")
          { format := .json } ∧
        report.hasViolationsAt .warning = true ∧
        (runProgram ["check", "--format", "json"] {} (mildFolder "index.rst")).exitCode = 0) ∧
    (∃ report : Report,
      report.IsFoundBy ["check"] {} (mildFolder oddName) {} ∧
        (runProgram ["check"] {} (mildFolder oddName)).exitCode = 0 ∧
        report.IsShownIn .yellow) ∧
    ∃ report : Report,
      report.IsFoundBy ["check", "--format", "json"] {} (mildFolder oddName)
          { format := .json } ∧
        report.hasViolationsAt .error = false ∧
        (runProgram ["check", "--format", "json"] {} (mildFolder oddName)).exitCode = 1 := by
  refine ⟨?_, ?_, ?_⟩
  · obtain ⟨report, isFound, noErrors, warned, located⟩ :=
      exists_isFoundBy_mildFolder (.inl rfl) readCommandLine_json
    have hasTextPaths : report.HasTextPaths :=
      fun violation member => ⟨"index.rst".toList, located violation member⟩
    obtain ⟨-, reached, exits, -⟩ := exit_totals_and_colour_agree report
    have exitCode := ((exits _ _ _ _ isFound).1 fun _ => hasTextPaths).1
    rw [noErrors] at exitCode
    refine ⟨report, isFound, (reached .warning).mpr ?_, exitCode⟩
    rw [countAtLeast]
    omega
  · obtain ⟨report, isFound, noErrors, warned, -⟩ :=
      exists_isFoundBy_mildFolder (.inr rfl)
        (show readCommandLine none ["check"] = .ok ⟨false, none, .check {}⟩ from rfl)
    obtain ⟨-, -, exits, -, yellow, -⟩ := exit_totals_and_colour_agree report
    have exitCode := ((exits _ _ _ _ isFound).1 nofun).1
    rw [noErrors] at exitCode
    exact ⟨report, isFound, exitCode, yellow.mpr ⟨noErrors, warned⟩⟩
  · obtain ⟨report, isFound, noErrors, warned, located⟩ :=
      exists_isFoundBy_mildFolder (.inr rfl) readCommandLine_json
    have notText := not_hasTextPaths_of_oddName warned located
    obtain ⟨-, reached, exits, -⟩ := exit_totals_and_colour_agree report
    refine ⟨report, isFound, ?_, ((exits _ _ _ _ isFound).2 rfl notText).1⟩
    rw [← Bool.not_eq_true, reached, countAtLeast, noErrors]
    decide

/-- A run on a page whose name is no text fails to print JSON, though there is no error. -/
theorem exit_code_exceeds_totals :
    ¬ ∀ (report : Report) (arguments : List String) (environment : Environment)
        (files : FileSystem) (options : CheckOptions),
        report.IsFoundBy arguments environment files options →
        (runProgram arguments environment files).exitCode =
          if 0 < report.count .error then 1 else 0 := by
  intro agree
  obtain ⟨report, isFound, noErrors, warned, located⟩ :=
    exists_isFoundBy_mildFolder (.inr rfl) readCommandLine_json
  have expected := agree _ _ _ _ _ isFound
  have actual := (isFound.fails rfl (not_hasTextPaths_of_oddName warned located)).1
  rw [actual, noErrors] at expected
  cases expected

end Report

end MarkupLint
