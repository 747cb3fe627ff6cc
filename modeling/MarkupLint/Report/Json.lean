import MarkupLint.Json.Printer
import MarkupLint.Json.Reader
import MarkupLint.Report

namespace MarkupLint

/-!
# Reports as JSON

A report is written as an object with its fields in a fixed order, which fails if
the path of a file is no text.  Reading is more generous: members may come in any
order, further members are ignored, and a record may also be given as the array of
its fields.  Counts and line numbers have 64 bits.
-/

/-- Why a report cannot be printed. -/
inductive PrintError where
  | pathNotText
  deriving Repr, DecidableEq

namespace PrintError

/-- The description of an error. -/
def message : PrintError → String
  | pathNotText => "path contains invalid UTF-8 characters"

end PrintError

namespace Severity

/-- A severity as JSON. -/
def toJson (severity : Severity) : Json :=
  .string severity.name

/-- The severity named by a string, or by the only member of an object, which is null. -/
def ofJson? : Json → Option Severity
  | .string name => ofName? name
  | .object [(name, .null)] => ofName? name
  | _ => none

end Severity

namespace Json

/-- The text of a JSON string. -/
def text? : Json → Option String
  | string value => some value
  | _ => none

/-- A natural number of 64 bits. -/
def word? : Json → Option Nat
  | integer (.ofNat value) => if value < UInt64.size then some value else none
  | _ => none

/-- The elements of an array. -/
def elements? : Json → Option (List Json)
  | array items => some items
  | _ => none

/-- The fields of a record with the given names, in that order. -/
def fields? (names : List String) : Json → Option (List Json)
  | array items => if items.length = names.length then some items else none
  | object members => names.mapM (object members).member?
  | _ => none

end Json

namespace Location

/-- A location as JSON. -/
def toJson (location : Location) : Except PrintError Json :=
  match location.file.text? with
  | none => .error .pathNotText
  | some file =>
      .ok (.object
        [("file", .string (String.ofList file)), ("line", .integer location.line)])

/-- The location given by a JSON value. -/
def ofJson? (value : Json) : Option Location :=
  match value.fields? ["file", "line"] with
  | some [file, line] => do
      let file ← file.text?
      let line ← line.word?
      return ⟨Path.ofString file, line⟩
  | _ => none

end Location

namespace Violation

/-- A violation as JSON. -/
def toJson (violation : Violation) : Except PrintError Json := do
  let location ← violation.location.toJson
  return .object
    [("code", .string violation.code), ("rule", .string violation.rule),
     ("severity", violation.severity.toJson), ("location", location),
     ("message", .string violation.message)]

/-- The violation given by a JSON value. -/
def ofJson? (value : Json) : Option Violation :=
  match value.fields? ["code", "rule", "severity", "location", "message"] with
  | some [code, rule, severity, location, message] => do
      let code ← code.text?
      let rule ← rule.text?
      let severity ← Severity.ofJson? severity
      let location ← Location.ofJson? location
      let message ← message.text?
      return ⟨code, rule, severity, location, message⟩
  | _ => none

end Violation

namespace Report

/-- A report as JSON. -/
def toJson (report : Report) : Except PrintError Json := do
  let violations ← report.violations.mapM Violation.toJson
  return .object
    [("violations", .array violations), ("files_checked", .integer report.filesChecked)]

/-- The report given by a JSON value. -/
def ofJson? (value : Json) : Option Report :=
  match value.fields? ["violations", "files_checked"] with
  | some [violations, filesChecked] => do
      let violations ← violations.elements?
      let violations ← violations.mapM Violation.ofJson?
      let filesChecked ← filesChecked.word?
      return ⟨violations, filesChecked⟩
  | _ => none

/-- The report written in a JSON text. -/
def ofJsonText? (text : List Char) : Option Report :=
  (Json.parse? text).bind ofJson?

end Report

end MarkupLint
