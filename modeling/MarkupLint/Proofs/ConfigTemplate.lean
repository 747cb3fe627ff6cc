import MarkupLint.CommandLine.Run
import MarkupLint.Proofs.ConfigEffect
import MarkupLint.Proofs.Files.FileTree

namespace MarkupLint

/-!
# The template changes no results

The file that a new project starts with is a configuration.  It has entries for single
rules and an explicit list of patterns, so it is not the default configuration, but no
analyzer can tell the two apart.
-/

namespace ConfigTemplate

/-- The settings that the template spells out. -/
def settings : Config where
  rules :=
    [("no-explicit-use-of-code-block-php", { enabled := some true }),
      ("no-admin-yaml", { enabled := some true })]

/--
The template is a configuration; its literals are turned into lists before they are
read.
-/
theorem parse_text :
    Config.parse text.toList = .ok settings := by
  obtain ⟨characters, isText, isParsed⟩ :
      ∃ characters,
        text.toList = characters ∧ Config.parse? characters = some settings := by
    refine ⟨?characters, ?isText, ?isParsed⟩
    case isText =>
        unfold text
        simp only [String.toList_append]
        repeat rewrite [String.toList_ofList]
        rfl
    case isParsed =>
        decide +kernel
  rw [Config.parse, isText, isParsed]

theorem sameEffect_settings :
    Config.SameEffect {} settings := by
  apply Config.sameEffect_default
  · rfl
  · decide
  · rfl

theorem isFileName_fileName :
    FileSystem.IsFileName fileName := by
  constructor <;>
    decide

/-- The file that was created holds the template. -/
theorem load_of_create
    {files : FileSystem}
    {force : Bool}
    (created : (create files force).exitCode = 0) :
    Config.load (create files force).files (.ofString fileName) = .ok settings := by
  unfold create at created ⊢
  by_cases isKept : (files.exists? (.ofString fileName) && !force) = true
  · rw [if_pos isKept] at created
    cases created
  rw [if_neg isKept] at created ⊢
  cases written : files.writeText fileName text.toList with
  | error error =>
      rw [written] at created
      cases created
  | ok after =>
      have readBack : after.readText (.ofString fileName) = .ok text.toList :=
        FileSystem.readText_of_writeText isFileName_fileName written
      simp only [Config.load, readBack]
      exact parse_text

/--
The file that is created can be read, and an analyzer with its configuration reports
what one with the default configuration reports, or fails with the same error.
-/
theorem create_changes_no_results :
    ∃ config,
      Config.parse text.toList = .ok config ∧
        (∀ files force,
          (create files force).exitCode = 0 →
          Config.load (create files force).files (.ofString fileName) = .ok config) ∧
        ∀ (workingDirectory : Option Path) (root : Option Path) (rules : List Rule)
          (exclude : List String),
          (∀ file document,
            (Analyzer.build workingDirectory root rules exclude config).map
                (fun analyzer => analyzer.checkDocument file document) =
              (Analyzer.build workingDirectory root rules exclude {}).map
                (fun analyzer => analyzer.checkDocument file document)) ∧
          ∀ files,
            (Analyzer.build workingDirectory root rules exclude config).bind
                (fun analyzer => analyzer.analyze files) =
              (Analyzer.build workingDirectory root rules exclude {}).bind
                (fun analyzer => analyzer.analyze files) := by
  refine ⟨settings, parse_text, fun files force => load_of_create, ?_⟩
  intro workingDirectory root rules exclude
  exact
    ⟨Analyzer.map_checkDocument_of_sameEffect sameEffect_settings rfl rfl,
      Analyzer.bind_analyze_of_sameEffect sameEffect_settings rfl rfl⟩

theorem create_changes_no_results_over_older_file :
    (create
        ⟨.directory [("docs", .directory [("rst-lint.toml", .file (some [0xFF]))])],
          some (.ofString "/docs/../docs"), []⟩ true).exitCode = 0 ∧
      ∃ config,
        Config.load
            (create
              ⟨.directory [("docs", .directory [("rst-lint.toml", .file (some [0xFF]))])],
                some (.ofString "/docs/../docs"), []⟩ true).files
            (.ofString fileName) = .ok config ∧
          (Analyzer.build (some (.ofString "/docs")) none [LegacyAdminFile.rule] [] config).map
              (fun analyzer =>
                analyzer.checkDocument "index.rst" (.ofText "See admin.yml".toList)) =
            .ok
              [⟨"RST002", "no-admin-yaml", .error, ⟨"index.rst", 1⟩,
                "Please use \"services.yaml\" instead of \"admin.yml\""⟩] := by
  have created :
      (create
        ⟨.directory [("docs", .directory [("rst-lint.toml", .file (some [0xFF]))])],
          some (.ofString "/docs/../docs"), []⟩ true).exitCode = 0 := by
    rfl
  obtain ⟨config, -, loads, keeps⟩ := create_changes_no_results
  refine ⟨created, config, loads _ _ created, ?_⟩
  rw [(keeps _ _ _ _).1]
  rfl

end ConfigTemplate

end MarkupLint
