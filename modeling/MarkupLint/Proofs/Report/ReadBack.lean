import Mathlib.Data.List.Nodup
import MarkupLint.CommandLine.Output
import MarkupLint.Proofs.Attempts
import MarkupLint.Proofs.Files.Path
import MarkupLint.Proofs.Json.ReadBack

namespace MarkupLint

/-!
# Reading reports back

A report that is printed as JSON loses nothing: the printed text stands for the same
violations in the same order and for the same number of files.  Line numbers and counts
have to fit in 64 bits.  It can be printed as JSON only if the paths of its files are
texts.
-/

/-- Reading what was written item by item gives the items that are read. -/
theorem mapM_map_eq_some
    {α β γ : Type}
    {write : α → β}
    {read : β → Option γ}
    {result : α → γ}
    {items : List α}
    (readBack : ∀ item ∈ items, read (write item) = some (result item)) :
    (items.map write).mapM read = some (items.map result) := by
  induction items with
  | nil =>
      rfl
  | cons item items inductionHypothesis =>
      have readItems :=
        inductionHypothesis fun other member => readBack other (List.mem_cons_of_mem item member)
      simp [readBack item List.mem_cons_self, readItems]

theorem find?_name_of_mem
    {members : List (String × Json)}
    (distinct : (members.map Prod.fst).Nodup)
    {member : String × Json}
    (isMember : member ∈ members) :
    members.find? (·.1 == member.1) = some member := by
  induction members with
  | nil =>
      cases isMember
  | cons first others inductionHypothesis =>
      rw [List.map_cons, List.nodup_cons] at distinct
      rcases List.mem_cons.mp isMember with rfl | inOthers
      · simp
      · have differs : first.1 ≠ member.1 := by
          intro same
          exact distinct.1 (same ▸ List.mem_map_of_mem inOthers)
        rw [List.find?_cons_of_neg (by simpa using differs)]
        exact inductionHypothesis distinct.2 inOthers

namespace Json

/-- The fields of an object are found under their names. -/
theorem fields?_object
    {members : List (String × Json)}
    {names : List String}
    {values : List Json}
    (areNames : members.map Prod.fst = names)
    (areValues : members.map Prod.snd = values)
    (distinct : names.Nodup) :
    (object members).fields? names = some values := by
  subst areNames areValues
  have distinctReversed : (members.reverse.map Prod.fst).Nodup := by
    rwa [List.map_reverse, List.nodup_reverse]
  have found :
      ∀ member ∈ members, (object members).member? member.1 = some member.2 := by
    intro member isMember
    rw [member?, find?_name_of_mem distinctReversed (List.mem_reverse.mpr isMember)]
    rfl
  exact mapM_map_eq_some found

end Json

namespace Severity

theorem ofJson?_toJson
    (severity : Severity) :
    ofJson? severity.toJson = some severity := by
  cases severity <;>
    rfl

end Severity

namespace Location

/-- A location can be printed exactly if the path of its file is a text. -/
theorem exists_toJson_iff
    {location : Location} :
    (∃ json, location.toJson = .ok json) ↔ ∃ text, location.file = .ofText text := by
  simp only [toJson, ← Path.text?_eq_some_iff]
  cases location.file.text? <;>
    simp

/-- The fields that are printed for a location, and that they hold no fractions. -/
theorem exists_fields_of_toJson
    {location : Location}
    {json : Json}
    (printed : location.toJson = .ok json) :
    (∃ text,
      location.file = .ofText text ∧
        json.fields? ["file", "line"] =
          some [.string (String.ofList text), .integer location.line]) ∧
      json.IsIntegral := by
  unfold toJson at printed
  cases isText : location.file.text? with
  | none =>
      rw [isText] at printed
      cases printed
  | some text =>
      rw [isText] at printed
      cases printed
      refine ⟨⟨text, Path.text?_eq_some_iff.mp isText,
        Json.fields?_object rfl rfl (by decide)⟩, ?_⟩
      apply Json.IsIntegral.object
      simp only [List.forall_mem_cons, List.not_mem_nil, false_implies, implies_true, and_true]
      exact ⟨.string _, .integer _⟩

theorem ofJson?_of_toJson
    {location : Location}
    (isWord : location.line < UInt64.size)
    {json : Json}
    (printed : location.toJson = .ok json) :
    ofJson? json = some location := by
  obtain ⟨⟨text, isFile, fields⟩, -⟩ := exists_fields_of_toJson printed
  rw [ofJson?, fields]
  simp [Json.text?, Json.word?, isWord, Path.ofString, ← isFile]

end Location

namespace Violation

/-- A violation can be printed if its location can. -/
theorem exists_toJson_iff
    {violation : Violation} :
    (∃ json, violation.toJson = .ok json) ↔ ∃ text, violation.location.file = .ofText text := by
  rw [← Location.exists_toJson_iff]
  constructor
  · rintro ⟨json, printed⟩
    obtain ⟨location, isLocation, -⟩ := exists_ok_of_bind_eq_ok printed
    exact ⟨location, isLocation⟩
  · rintro ⟨location, isLocation⟩
    rw [toJson, isLocation]
    exact ⟨_, rfl⟩

theorem exists_fields_of_toJson
    {violation : Violation}
    {json : Json}
    (printed : violation.toJson = .ok json) :
    (∃ location,
      violation.location.toJson = .ok location ∧
        json.fields? ["code", "rule", "severity", "location", "message"] =
          some
            [.string violation.code, .string violation.rule, violation.severity.toJson,
              location, .string violation.message]) ∧
      json.IsIntegral := by
  obtain ⟨location, isLocation, isJson⟩ := exists_ok_of_bind_eq_ok printed
  have integral := (Location.exists_fields_of_toJson isLocation).2
  cases isJson
  refine ⟨⟨location, isLocation, Json.fields?_object rfl rfl (by decide)⟩, ?_⟩
  apply Json.IsIntegral.object
  simp only [List.forall_mem_cons, List.not_mem_nil, false_implies, implies_true, and_true]
  exact ⟨.string _, .string _, .string _, integral, .string _⟩

theorem ofJson?_of_toJson
    {violation : Violation}
    (isWord : violation.location.line < UInt64.size)
    {json : Json}
    (printed : violation.toJson = .ok json) :
    ofJson? json = some violation := by
  obtain ⟨⟨location, isLocation, fields⟩, -⟩ := exists_fields_of_toJson printed
  rw [ofJson?, fields]
  simp [Json.text?, Severity.ofJson?_toJson, Location.ofJson?_of_toJson isWord isLocation]

end Violation

namespace Report

/-- The line numbers and the number of files fit in 64 bits. -/
structure HasWords
    (report : Report) : Prop where
  lines :
    ∀ violation ∈ report.violations, violation.location.line < UInt64.size
  filesChecked :
    report.filesChecked < UInt64.size

/-- The paths of the files with violations are texts. -/
def HasTextPaths
    (report : Report) : Prop :=
  ∀ violation ∈ report.violations, ∃ text, violation.location.file = .ofText text

/-- A report can be printed as JSON exactly if the paths of its files are texts. -/
theorem exists_toJson_iff
    {report : Report} :
    (∃ json, report.toJson = .ok json) ↔ report.HasTextPaths := by
  simp only [HasTextPaths, ← Violation.exists_toJson_iff]
  rw [← exists_mapM_eq_ok_iff]
  constructor
  · rintro ⟨json, printed⟩
    obtain ⟨violations, areViolations, -⟩ := exists_ok_of_bind_eq_ok printed
    exact ⟨violations, areViolations⟩
  · rintro ⟨violations, areViolations⟩
    rw [toJson, areViolations]
    exact ⟨_, rfl⟩

theorem exists_fields_of_toJson
    {report : Report}
    {json : Json}
    (printed : report.toJson = .ok json) :
    (∃ violations,
      report.violations.mapM Violation.toJson = .ok violations ∧
        json.fields? ["violations", "files_checked"] =
          some [.array violations, .integer report.filesChecked]) ∧
      json.IsIntegral := by
  obtain ⟨violations, areViolations, isJson⟩ := exists_ok_of_bind_eq_ok printed
  have integral : (Json.array violations).IsIntegral :=
    .array
      (forall_mem_of_mapM_eq_ok (fun _ _ printed => (Violation.exists_fields_of_toJson printed).2)
        areViolations)
  cases isJson
  refine ⟨⟨violations, areViolations, Json.fields?_object rfl rfl (by decide)⟩, ?_⟩
  apply Json.IsIntegral.object
  simp only [List.forall_mem_cons, List.not_mem_nil, false_implies, implies_true, and_true]
  exact ⟨integral, .integer _⟩

theorem ofJson?_of_toJson
    {report : Report}
    (hasWords : report.HasWords)
    {json : Json}
    (printed : report.toJson = .ok json) :
    ofJson? json = some report := by
  obtain ⟨⟨violations, areViolations, fields⟩, -⟩ := exists_fields_of_toJson printed
  have readBack : violations.mapM Violation.ofJson? = some report.violations :=
    mapM_eq_some_of_mapM_eq_ok
      (fun violation member _ => Violation.ofJson?_of_toJson (hasWords.lines violation member))
      areViolations
  rw [ofJson?, fields]
  simp [Json.elements?, readBack, Json.word?, hasWords.filesChecked]

/-- The JSON text that is printed for a report stands for that report. -/
theorem ofJsonText?_render_json
    {report : Report}
    (hasWords : report.HasWords)
    (hasTextPaths : report.HasTextPaths) :
    ∃ text,
      report.render .json = .ok text ∧
        ofJsonText? text.toList = some report := by
  obtain ⟨json, printed⟩ := exists_toJson_iff.mpr hasTextPaths
  have rendered :
      report.render .json = .ok (String.ofList (Json.render .pretty json) ++ "\n") := by
    rw [render, printed]
    rfl
  have text :
      (String.ofList (Json.render .pretty json) ++ "\n").toList =
        Json.render .pretty json ++ ['\n'] := by
    simp
  have parsed : Json.parse? (Json.render .pretty json ++ ['\n']) = some json :=
    Json.parse?_render_append (exists_fields_of_toJson printed).2 (by simp [Json.isBlank])
  refine ⟨_, rendered, ?_⟩
  rw [ofJsonText?, text, parsed, Option.bind_some, ofJson?_of_toJson hasWords printed]

/-- Quotes, backslashes, control characters, an emoji and the greatest line number. -/
theorem ofJsonText?_render_json_at_odd_texts :
    ∃ report : Report,
      report.violations =
          [⟨"RST\x22", "\\u0041", .warning, ⟨"a\x01\n😀.rst", 18446744073709551615⟩, "\x1f\t"⟩,
            ⟨"", "", .info, ⟨"", 0⟩, "\x08\x0c\r/\x7f"⟩] ∧
        report.HasWords ∧
        ∃ text,
          report.render .json = .ok text ∧
            ofJsonText? text.toList = some report := by
  have hasWords :
      HasWords
        ⟨[⟨"RST\x22", "\\u0041", .warning, ⟨"a\x01\n😀.rst", 18446744073709551615⟩, "\x1f\t"⟩,
          ⟨"", "", .info, ⟨"", 0⟩, "\x08\x0c\r/\x7f"⟩], 2⟩ := {
    lines := by decide
    filesChecked := by decide
  }
  have hasTextPaths :
      HasTextPaths
        ⟨[⟨"RST\x22", "\\u0041", .warning, ⟨"a\x01\n😀.rst", 18446744073709551615⟩, "\x1f\t"⟩,
          ⟨"", "", .info, ⟨"", 0⟩, "\x08\x0c\r/\x7f"⟩], 2⟩ := by
    simp only [HasTextPaths, List.forall_mem_cons, List.not_mem_nil, false_implies,
      implies_true, and_true]
    exact ⟨⟨_, rfl⟩, ⟨_, rfl⟩⟩
  exact ⟨_, rfl, hasWords, ofJsonText?_render_json hasWords hasTextPaths⟩

end Report

end MarkupLint
