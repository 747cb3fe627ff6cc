import MarkupLint.Analyzer
import MarkupLint.Config.File

namespace MarkupLint

/-!
# Settings that are left out

An analyzer setting that a configuration does not give has a default.  There are two
sets of defaults, though: one for a configuration without any analyzer settings, and one
for the settings that are missing among others.  They agree on the root and on ignore
files but not on the patterns, so giving any other setting takes the pattern for build
directories away.
-/

open Toml (Value)

/-- A setting of the analyzer. -/
inductive AnalyzerSetting where
  | root
  | exclude
  | respectGitignore
  deriving Repr, DecidableEq

namespace AnalyzerSetting

/-- The key of a setting in a table. -/
def key : AnalyzerSetting → String
  | root => "root"
  | exclude => "exclude"
  | respectGitignore => "respect_gitignore"

/-- The place of a setting in an array. -/
def place : AnalyzerSetting → Nat
  | root => 0
  | exclude => 1
  | respectGitignore => 2

/-- How the value of a setting is written. -/
def written
    (settings : AnalyzerSettings) :
    AnalyzerSetting → Value
  | root => .string settings.root
  | exclude => .array (settings.exclude.map .string)
  | respectGitignore => .boolean settings.respectGitignore

/-- What stands for a setting that is missing among others. -/
def fallback : AnalyzerSetting → Value
  | root => .string "."
  | exclude => .array []
  | respectGitignore => .boolean true

/-- What a record of analyzer settings says of one of them. -/
def field?
    (setting : AnalyzerSetting) :
    Value → Option Value
  | .table entries => Value.lookup? setting.key entries
  | .array items => items[setting.place]?
  | _ => none

/-- What a configuration gives for a setting. -/
def given?
    (setting : AnalyzerSetting)
    (entries : List (String × Value)) :
    Option Value :=
  (Value.lookup? "analyzer" entries).bind setting.field?

/-- The two sets of defaults agree on all settings but the patterns. -/
theorem fallback_eq_default_iff
    {setting : AnalyzerSetting} :
    setting.fallback = setting.written {} ↔ setting ≠ .exclude := by
  cases setting <;>
    simp [fallback, written]

end AnalyzerSetting

/-! ## Decoding a record -/

/-- Whether a value may stand for a record. -/
def Toml.Value.isRecord : Value → Bool
  | table _ => true
  | array _ => true
  | moment => true
  | _ => false

/-- Only a record says anything of a setting. -/
theorem AnalyzerSetting.isRecord_of_field?
    {setting : AnalyzerSetting}
    {value found : Value}
    (isField : setting.field? value = some found) :
    value.isRecord = true := by
  cases value with
  | string text => cases isField
  | integer number => cases isField
  | float => cases isField
  | boolean flag => cases isField
  | moment => cases isField
  | array items => rfl
  | table entries => rfl

namespace Toml.Value

theorem text?_eq_some_iff
    {value : Value}
    {text : String} :
    value.text? = some text ↔ value = .string text := by
  cases value <;>
    simp [text?]

theorem flag?_eq_some_iff
    {value : Value}
    {flag : Bool} :
    value.flag? = some flag ↔ value = .boolean flag := by
  cases value <;>
    simp [flag?]

theorem mapM_text?_eq_some_iff
    {items : List Value}
    {texts : List String} :
    items.mapM text? = some texts ↔ items = texts.map .string := by
  induction items generalizing texts with
  | nil =>
      simp [eq_comm]
  | cons item items inductionHypothesis =>
      simp only [List.mapM_cons, Option.bind_eq_bind, Option.bind_eq_some_iff,
        text?_eq_some_iff, inductionHypothesis, Option.pure_def, Option.some.injEq]
      constructor
      · rintro ⟨text, rfl, texts, rfl, rfl⟩
        rfl
      · intro shape
        cases texts with
        | nil =>
            cases shape
        | cons text texts =>
            cases shape
            exact ⟨text, rfl, texts, rfl, rfl⟩

/-- A field that may be missing is read from what stands for it. -/
theorem field?_eq_some_iff
    {decode? : Value → Option α}
    {encode : α → Value}
    (inverse : ∀ value result, decode? value = some result ↔ value = encode result)
    {default result : α}
    {field : Option Value} :
    field? decode? default field = some result ↔
      field.getD (encode default) = encode result := by
  cases field with
  | none =>
      have isInjective : encode default = encode result ↔ default = result := by
        constructor
        · intro same
          have readBack := (inverse (encode default) result).mpr same
          rw [(inverse (encode default) default).mpr rfl] at readBack
          exact Option.some.inj readBack
        · rintro rfl
          rfl
      rw [Option.getD_none, isInjective, field?, Option.some.injEq]
  | some value =>
      exact inverse value result

end Toml.Value

namespace AnalyzerSettings

theorem patterns?_eq_some_iff
    {value : Value}
    {patterns : List String} :
    patterns? value = some patterns ↔ value = .array (patterns.map .string) := by
  cases value <;>
    simp [patterns?, Value.items?, Value.mapM_text?_eq_some_iff]

/-- The fields of a record of analyzer settings, in order. -/
theorem fields?_eq
    (value : Value) :
    value.fields? ["root", "exclude", "respect_gitignore"] =
      if value.isRecord then
        some
          [AnalyzerSetting.root.field? value, AnalyzerSetting.exclude.field? value,
            AnalyzerSetting.respectGitignore.field? value]
      else
        none := by
  cases value <;>
    rfl

/-- Settings are read from a record field by field, with the fallback of each missing one. -/
theorem ofToml?_eq_some_iff
    {value : Value}
    {settings : AnalyzerSettings} :
    ofToml? value = some settings ↔
      value.isRecord = true ∧
        ∀ setting : AnalyzerSetting,
          (setting.field? value).getD setting.fallback = setting.written settings := by
  rw [ofToml?, fields?_eq]
  cases isRecord : value.isRecord with
  | false =>
      simp
  | true =>
      simp only [if_true, Option.bind_eq_bind, Option.bind_eq_some_iff, Option.pure_def,
        Option.some.injEq, true_and,
        Value.field?_eq_some_iff (fun _ _ => Value.text?_eq_some_iff),
        Value.field?_eq_some_iff (fun _ _ => Value.flag?_eq_some_iff),
        Value.field?_eq_some_iff (fun _ _ => patterns?_eq_some_iff)]
      constructor
      · rintro ⟨root, isRoot, exclude, isExclude, respectGitignore, isGitignore, rfl⟩ setting
        cases setting with
        | root => exact isRoot
        | exclude => exact isExclude
        | respectGitignore => exact isGitignore
      · intro fields
        exact ⟨_, fields .root, _, fields .exclude, _, fields .respectGitignore, rfl⟩

end AnalyzerSettings

/-! ## Decoding a configuration -/

namespace Config

/-- Whether a configuration says anything about the analyzer. -/
def mentionsAnalyzer
    (entries : List (String × Value)) :
    Bool :=
  (Value.lookup? "analyzer" entries).isSome

theorem ofToml?_eq_some_iff
    {entries : List (String × Value)}
    {config : Config} :
    ofToml? entries = some config ↔
      Value.field? groups? [] (Value.lookup? "groups" entries) = some config.groups ∧
        Value.field? AnalyzerSettings.ofToml? {} (Value.lookup? "analyzer" entries) =
          some config.analyzer ∧
        Value.field? rules? [] (Value.lookup? "rules" entries) = some config.rules := by
  simp only [ofToml?, Option.bind_eq_bind, Option.bind_eq_some_iff, Option.pure_def,
    Option.some.injEq]
  constructor
  · rintro ⟨groups, isGroups, analyzer, isAnalyzer, rules, isRules, rfl⟩
    exact ⟨isGroups, isAnalyzer, isRules⟩
  · rintro ⟨isGroups, isAnalyzer, isRules⟩
    exact ⟨_, isGroups, _, isAnalyzer, _, isRules, rfl⟩

theorem parse_eq_ok_iff
    {text : List Char}
    {config : Config} :
    parse text = .ok config ↔
      ∃ entries, Toml.parse? text = some entries ∧ ofToml? entries = some config := by
  have isBind : parse? text = (Toml.parse? text).bind ofToml? := rfl
  rw [← Option.bind_eq_some_iff, ← isBind, parse]
  cases parse? text <;>
    simp

/-- A setting is what the configuration gives for it, or one of the two defaults. -/
theorem written_of_ofToml?
    {entries : List (String × Value)}
    {config : Config}
    (decoded : ofToml? entries = some config)
    (setting : AnalyzerSetting) :
    setting.written config.analyzer =
      (setting.given? entries).getD
        (if mentionsAnalyzer entries then setting.fallback else setting.written {}) := by
  obtain ⟨-, isAnalyzer, -⟩ := ofToml?_eq_some_iff.mp decoded
  unfold AnalyzerSetting.given? mentionsAnalyzer
  cases found : Value.lookup? "analyzer" entries with
  | none =>
      rw [found] at isAnalyzer
      rw [← Option.some.inj isAnalyzer]
      rfl
  | some value =>
      rw [found] at isAnalyzer
      exact ((AnalyzerSettings.ofToml?_eq_some_iff.mp isAnalyzer).2 setting).symm

/-- The patterns apart, a missing setting has its default. -/
theorem written_of_ofToml?_of_ne
    {entries : List (String × Value)}
    {config : Config}
    (decoded : ofToml? entries = some config)
    {setting : AnalyzerSetting}
    (otherThanPatterns : setting ≠ .exclude) :
    setting.written config.analyzer =
      (setting.given? entries).getD setting.fallback := by
  rw [written_of_ofToml? decoded, ← AnalyzerSetting.fallback_eq_default_iff.mpr otherThanPatterns,
    ite_self]

/-! ## Writing a default out -/

/-- The other entries give one more analyzer setting, with its default value. -/
structure WritesOut
    (setting : AnalyzerSetting)
    (entries otherEntries : List (String × Value)) : Prop where
  isMissing :
    setting.given? entries = none
  isWritten :
    setting.given? otherEntries = some (setting.written {})
  sameSettings :
    ∀ other : AnalyzerSetting, other ≠ setting → other.given? otherEntries = other.given? entries
  sameGroups :
    Value.lookup? "groups" otherEntries = Value.lookup? "groups" entries
  sameRules :
    Value.lookup? "rules" otherEntries = Value.lookup? "rules" entries

/-- The patterns after a default was written out. -/
def patternsAfter
    (setting : AnalyzerSetting)
    (entries : List (String × Value))
    (config : Config) :
    List String :=
  if setting = .exclude then
    ({} : AnalyzerSettings).exclude
  else if mentionsAnalyzer entries then
    config.analyzer.exclude
  else
    []

/-- The configuration after a default was written out: the patterns may be other ones. -/
def afterWriting
    (setting : AnalyzerSetting)
    (entries : List (String × Value))
    (config : Config) :
    Config :=
  { config with
    analyzer := { config.analyzer with exclude := patternsAfter setting entries config } }

theorem written_afterWriting_of_ne
    {setting other : AnalyzerSetting}
    (otherThanPatterns : other ≠ .exclude)
    (entries : List (String × Value))
    (config : Config) :
    other.written (afterWriting setting entries config).analyzer =
      other.written config.analyzer := by
  cases other with
  | root => rfl
  | exclude => exact absurd rfl otherThanPatterns
  | respectGitignore => rfl

section

variable
  {setting : AnalyzerSetting}
  {entries otherEntries : List (String × Value)}
  {config : Config}
  (decoded : ofToml? entries = some config)

include decoded

/--
Each setting of the other configuration is read as `afterWriting` has it.  The patterns
are the one setting whose two defaults differ.
-/
theorem written_afterWriting
    (writes : WritesOut setting entries otherEntries)
    (other : AnalyzerSetting) :
    (other.given? otherEntries).getD other.fallback =
      other.written (afterWriting setting entries config).analyzer := by
  by_cases isPatterns : other = .exclude
  · subst isPatterns
    by_cases writesPatterns : setting = .exclude
    · subst writesPatterns
      rw [writes.isWritten]
      rfl
    · rw [writes.sameSettings .exclude (Ne.symm writesPatterns)]
      cases mentions : mentionsAnalyzer entries with
      | true =>
          have patterns := written_of_ofToml? decoded .exclude
          rw [mentions, if_pos rfl] at patterns
          simpa [afterWriting, patternsAfter, writesPatterns, mentions] using patterns.symm
      | false =>
          have noAnalyzer : Value.lookup? "analyzer" entries = none := by
            simpa [mentionsAnalyzer] using mentions
          simp [afterWriting, patternsAfter, writesPatterns, mentions, AnalyzerSetting.given?,
            noAnalyzer, AnalyzerSetting.fallback, AnalyzerSetting.written]
  · rw [written_afterWriting_of_ne isPatterns, written_of_ofToml?_of_ne decoded isPatterns]
    by_cases isWritten : other = setting
    · subst isWritten
      rw [writes.isWritten, writes.isMissing]
      exact (AnalyzerSetting.fallback_eq_default_iff.mpr isPatterns).symm
    · rw [writes.sameSettings other isWritten]

/-- Writing a default out gives a configuration again. -/
theorem ofToml?_of_writesOut
    (writes : WritesOut setting entries otherEntries) :
    ofToml? otherEntries = some (afterWriting setting entries config) := by
  obtain ⟨isGroups, -, isRules⟩ := ofToml?_eq_some_iff.mp decoded
  obtain ⟨value, found, isField⟩ := Option.bind_eq_some_iff.mp writes.isWritten
  have isRecord := AnalyzerSetting.isRecord_of_field? isField
  rw [ofToml?_eq_some_iff, writes.sameGroups, writes.sameRules, found]
  refine ⟨isGroups, AnalyzerSettings.ofToml?_eq_some_iff.mpr ⟨isRecord, ?_⟩, isRules⟩
  intro other
  have isGiven : other.given? otherEntries = other.field? value := by
    rw [AnalyzerSetting.given?, found, Option.bind_some]
  rw [← isGiven]
  exact written_afterWriting decoded writes other

/-- A missing list of patterns has two meanings. -/
theorem exclude_of_missing
    (isMissing : AnalyzerSetting.exclude.given? entries = none) :
    config.analyzer.exclude =
      if mentionsAnalyzer entries then [] else ({} : AnalyzerSettings).exclude := by
  have patterns := written_of_ofToml? decoded .exclude
  rw [isMissing, Option.getD_none] at patterns
  cases mentions : mentionsAnalyzer entries with
  | true =>
      simpa [mentions, AnalyzerSetting.written, AnalyzerSetting.fallback] using patterns
  | false =>
      rw [mentions] at patterns
      exact (List.map_inj_right fun _ _ => Value.string.inj).mp (Value.array.inj patterns)

theorem afterWriting_eq_self_iff
    (isMissing : setting.given? entries = none) :
    afterWriting setting entries config = config ↔
      (mentionsAnalyzer entries = true ↔ setting ≠ .exclude) := by
  have samePatterns :
      afterWriting setting entries config = config ↔
        patternsAfter setting entries config = config.analyzer.exclude := by
    constructor
    · intro same
      exact congrArg (fun config => config.analyzer.exclude) same
    · intro same
      rw [afterWriting, same]
  rw [samePatterns, patternsAfter]
  by_cases writesPatterns : setting = .exclude
  · subst writesPatterns
    rw [exclude_of_missing decoded isMissing]
    cases mentionsAnalyzer entries <;>
      simp
  · cases mentions : mentionsAnalyzer entries with
    | true =>
        simp [writesPatterns]
    | false =>
        have noAnalyzer : Value.lookup? "analyzer" entries = none := by
          simpa [mentionsAnalyzer] using mentions
        have patterns :=
          exclude_of_missing decoded (by simp [AnalyzerSetting.given?, noAnalyzer])
        simp [writesPatterns, patterns, mentions]

end

/--
A setting that is left out has its default, except for the patterns of a configuration
that says something else about the analyzer: those are none.  Writing the default of a
setting out therefore changes at most the patterns, and it changes them exactly if it is
the first thing said about the analyzer and not the patterns, or if it is the patterns
and not the first thing.
-/
theorem missing_settings_have_defaults_unless_patterns
    {text : List Char}
    {config : Config}
    (parsed : parse text = .ok config) :
    ∃ entries,
      Toml.parse? text = some entries ∧
        (∀ setting value,
          AnalyzerSetting.given? setting entries = some value →
          setting.written config.analyzer = value) ∧
        (∀ setting,
          AnalyzerSetting.given? setting entries = none →
          (setting.written config.analyzer = setting.written {} ↔
            ¬ (setting = .exclude ∧ mentionsAnalyzer entries = true))) ∧
        (AnalyzerSetting.exclude.given? entries = none →
          mentionsAnalyzer entries = true →
          config.analyzer.exclude = []) ∧
        ∀ setting otherText otherEntries,
          Toml.parse? otherText = some otherEntries →
          WritesOut setting entries otherEntries →
          ∃ other,
            parse otherText = .ok other ∧
              other =
                { config with
                  analyzer := { config.analyzer with exclude := other.analyzer.exclude } } ∧
              (other = config ↔ (mentionsAnalyzer entries = true ↔ setting ≠ .exclude)) := by
  obtain ⟨entries, isTable, decoded⟩ := parse_eq_ok_iff.mp parsed
  refine ⟨entries, isTable, ?_, ?_, ?_, ?_⟩
  · intro setting value isGiven
    rw [written_of_ofToml? decoded, isGiven, Option.getD_some]
  · intro setting isMissing
    rw [written_of_ofToml? decoded, isMissing, Option.getD_none]
    cases mentionsAnalyzer entries with
    | true =>
        simp [AnalyzerSetting.fallback_eq_default_iff]
    | false =>
        simp
  · intro isMissing mentions
    rw [exclude_of_missing decoded isMissing, if_pos mentions]
  · intro setting otherText otherEntries otherTable writes
    exact
      ⟨afterWriting setting entries config,
        parse_eq_ok_iff.mpr ⟨otherEntries, otherTable, ofToml?_of_writesOut decoded writes⟩, rfl,
        afterWriting_eq_self_iff decoded writes.isMissing⟩

/-- Among other settings a further default can be written out, and the patterns stay none. -/
theorem missing_settings_have_defaults_unless_patterns_in_file :
    ∃ config,
      parse "[analyzer]\nroot = \"docs\"\n".toList = .ok config ∧
        config.analyzer.exclude = [] ∧
        parse "[analyzer]\nroot = \"docs\"\nrespect_gitignore = true\n".toList = .ok config := by
  have isTable :
      Toml.parse? "[analyzer]\nroot = \"docs\"\n".toList =
        some [("analyzer", .table [("root", .string "docs")])] := by
    rewrite [String.toList_ofList]
    rfl
  have otherTable :
      Toml.parse? "[analyzer]\nroot = \"docs\"\nrespect_gitignore = true\n".toList =
        some
          [("analyzer",
            .table [("root", .string "docs"), ("respect_gitignore", .boolean true)])] := by
    rewrite [String.toList_ofList]
    rfl
  have parsed :
      parse "[analyzer]\nroot = \"docs\"\n".toList =
        .ok { analyzer := { root := "docs", exclude := [] } } :=
    parse_eq_ok_iff.mpr ⟨_, isTable, rfl⟩
  obtain ⟨entries, isEntries, -, -, noPatterns, writesOut⟩ :=
    missing_settings_have_defaults_unless_patterns parsed
  obtain rfl := Option.some.inj (isTable.symm.trans isEntries)
  have writes :
      WritesOut .respectGitignore
        [("analyzer", .table [("root", .string "docs")])]
        [("analyzer",
          .table [("root", .string "docs"), ("respect_gitignore", .boolean true)])] := {
    isMissing := rfl
    isWritten := rfl
    sameSettings := by
      intro other isOther
      cases other with
      | root => rfl
      | exclude => rfl
      | respectGitignore => exact absurd rfl isOther
    sameGroups := rfl
    sameRules := rfl
  }
  obtain ⟨other, otherParsed, -, same⟩ := writesOut _ _ _ otherTable writes
  obtain rfl := same.mpr (by decide)
  exact ⟨_, parsed, noPatterns rfl rfl, otherParsed⟩

/--
A configuration that gives the root only, as it is by default, excludes no build
directories, although one that gives nothing does.
-/
theorem missing_patterns_differ_from_default :
    (¬ ∀ (text : List Char) (config : Config) (entries : List (String × Value))
        (setting : AnalyzerSetting),
        parse text = .ok config →
        Toml.parse? text = some entries →
        setting.given? entries = none →
        setting.written config.analyzer = setting.written {}) ∧
      ¬ ∀ (text otherText : List Char) (config other : Config)
          (entries otherEntries : List (String × Value)) (setting : AnalyzerSetting)
          (analyzer otherAnalyzer : Analyzer) (names : List FileName),
        parse text = .ok config →
        parse otherText = .ok other →
        Toml.parse? text = some entries →
        Toml.parse? otherText = some otherEntries →
        WritesOut setting entries otherEntries →
        Analyzer.build (some (.ofString "/docs")) none [] [] config = .ok analyzer →
        Analyzer.build (some (.ofString "/docs")) none [] [] other = .ok otherAnalyzer →
        analyzer.isExcluded names = otherAnalyzer.isExcluded names := by
  have isTable : Toml.parse? [] = some [] := by
    rfl
  have parsed : parse [] = .ok {} :=
    parse_eq_ok_iff.mpr ⟨_, isTable, rfl⟩
  have otherTable :
      Toml.parse? "[analyzer]\nroot = \".\"\n".toList =
        some [("analyzer", .table [("root", .string ".")])] := by
    rewrite [String.toList_ofList]
    rfl
  have otherParsed :
      parse "[analyzer]\nroot = \".\"\n".toList = .ok { analyzer := { exclude := [] } } :=
    parse_eq_ok_iff.mpr ⟨_, otherTable, rfl⟩
  have writes :
      WritesOut .root [] [("analyzer", .table [("root", .string ".")])] := {
    isMissing := rfl
    isWritten := rfl
    sameSettings := by
      intro other isOther
      cases other with
      | root => exact absurd rfl isOther
      | exclude => rfl
      | respectGitignore => rfl
    sameGroups := rfl
    sameRules := rfl
  }
  constructor
  · intro haveDefaults
    have samePatterns := haveDefaults _ _ _ .exclude otherParsed otherTable rfl
    cases samePatterns
  · intro sameFiles
    have sameVerdict :=
      sameFiles _ _ _ _ _ _ _ _ _ ["_build", "index.rst"] parsed otherParsed isTable otherTable
        writes rfl rfl
    revert sameVerdict
    decide +kernel

end Config

end MarkupLint
