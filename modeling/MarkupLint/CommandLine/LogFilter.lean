import MarkupLint.CommandLine.Log
import MarkupLint.Text.Alphanumeric
import MarkupLint.Text.Search
import MarkupLint.Text.WhiteSpace

namespace MarkupLint

/-!
# Log filters

The user may say which records are written by a list of directives.  A directive
has a level, the start of a target it is about, and in brackets the span and the
field that a record has to belong to.  The most specific directive about a record
decides.  A filter that cannot be read counts as none, and the level then depends
on how talkative the run is asked to be.
-/

/-- The most detailed level that is written; without one nothing is. -/
abbrev LogThreshold := Option LogLevel

namespace LogThreshold

/-- Whether records of a level are written. -/
def admits (threshold : LogThreshold) (level : LogLevel) : Bool :=
  match threshold with
  | none => false
  | some most => Nat.ble level.rank most.rank

/-- The threshold with a given number. -/
def ofNumber? (number : Nat) : Option LogThreshold :=
  if number = 0 then
    some none
  else
    (LogLevel.all.find? (·.rank == number)).map some

/-- The digits of a number, which a plus sign may precede. -/
def digits? (text : List Char) : Option (List Char) :=
  let digits := (afterStart? ['+'] text).getD text
  if digits.isEmpty || !digits.all Char.isDigit then none else some digits

/-- The threshold with a given name or number, whatever the case of its letters. -/
def ofText? (text : List Char) : Option LogThreshold :=
  match digits? text with
  | some digits => ofNumber? (numeralValue 10 digits)
  | none =>
      let name := String.ofList (text.map Char.toUpper)
      if name == "OFF" then
        some none
      else
        (LogLevel.all.find? (·.name == name)).map some

end LogThreshold

/-- The field that a directive asks for: its name, and whether a value is asked for too. -/
structure LogField where
  name : List Char
  hasValue : Bool
  deriving Repr, DecidableEq

namespace LogField

/-- The field described by a text, which an equals sign and a value may end. -/
def ofText? (text : List Char) : Option LogField :=
  if text.isEmpty then none else some ⟨text.takeWhile (· != '='), text.contains '='⟩

end LogField

/-- A directive of a log filter; an empty target stands for every target. -/
structure LogDirective where
  target : List Char := []
  span : Option (List Char) := none
  field : Option LogField := none
  threshold : LogThreshold := some .trace
  deriving Repr, DecidableEq

namespace LogDirective

/-- Which part of a directive is being read, and where it began. -/
inductive Part where
  | nothing
  | levelOrTarget
  | span (start : Nat)
  | field (start : Nat)
  | fieldEnd
  | bracketEnd
  | level (start : Nat)
  deriving Repr, DecidableEq

/-- The part of a text between two positions. -/
def slice (text : List Char) (start stop : Nat) : List Char :=
  (text.take stop).drop start

/-- Whether a directive may start with a character other than a bracket. -/
def mayStart (character : Char) : Bool :=
  character == '-' || character == ':' || character == '_' || isAlphanumeric character

/-- The span that a text names before the fields; there need not be any. -/
def spanBeforeField (text : List Char) : Option (List Char) :=
  if text.isEmpty then none else some text

/--
Read the character at a position.  Positions are counted without the white space
before a directive, but the parts are cut out of the text as it stands.
-/
def step (text : List Char) (reading : Part × LogDirective) (next : Char × Nat) :
    Option (Part × LogDirective) :=
  let (part, directive) := reading
  let (character, position) := next
  match part with
  | .nothing =>
      if character = '[' then some (.span (position + 1), directive)
      else if mayStart character then some (.levelOrTarget, directive)
      else none
  | .levelOrTarget =>
      let named := { directive with target := slice text 0 position }
      if character = '=' then some (.level (position + 1), named)
      else if character = '[' then some (.span (position + 1), named)
      else some (part, directive)
  | .span start =>
      let name := slice text start position
      if character = ']' then some (.bracketEnd, { directive with span := some name })
      else if character = '\x7b' then
        some (.field (position + 1), { directive with span := spanBeforeField name })
      else some (part, directive)
  | .field start =>
      if character = '\x7d' then
        (LogField.ofText? (slice text start position)).map fun field =>
          (.fieldEnd, { directive with field := some field })
      else some (part, directive)
  | .fieldEnd => if character = ']' then some (.bracketEnd, directive) else none
  | .bracketEnd => if character = '=' then some (.level (position + 1), directive) else none
  | .level _ => some (part, directive)

/-- The directive that is complete at the end of a text. -/
def finish? (text : List Char) : Part × LogDirective → Option LogDirective
  | (.levelOrTarget, directive) =>
      match LogThreshold.ofText? text with
      | some threshold => some { directive with threshold := threshold }
      | none => some { directive with target := text }
  | (.level start, directive) =>
      let level := text.drop start
      if level.isEmpty then
        some directive
      else
        (LogThreshold.ofText? level).map fun threshold =>
          { directive with threshold := threshold }
  | (.bracketEnd, directive) => some directive
  | _ => none

/-- The directive written in a text. -/
def ofText? (text : List Char) : Option LogDirective := do
  let reading ← (trim text).zipIdx.foldlM (step text) (.nothing, {})
  finish? text reading

/-- The name of the one field that records have. -/
def messageField : List Char := "message".toList

/-- Whether a field is one of every record. -/
def holdsField (field : LogField) : Bool :=
  field.name == messageField && !field.hasValue

/-- Whether a directive is about the records of a part; none of them belongs to a span. -/
def isAbout (directive : LogDirective) (source : LogSource) : Bool :=
  directive.span.isNone && directive.field.all holdsField &&
    directive.target.isPrefixOf source.target.toList

/-- Whether a directive is at least as specific as another one about the same record. -/
def isAsSpecific (directive other : LogDirective) : Bool :=
  if directive.target.length = other.target.length then
    directive.field.isSome || other.field.isNone
  else
    Nat.ble other.target.length directive.target.length

end LogDirective

/-- The directives of a filter in order. -/
abbrev LogFilter := List LogDirective

namespace LogFilter

/-- The filter written in a text, with commas between directives; an empty one admits errors. -/
def ofText? (text : List Char) : Option LogFilter :=
  match (splitAtEach ',' text).filter (!·.isEmpty) with
  | [] => some [{ threshold := some .error }]
  | entries => entries.mapM LogDirective.ofText?

/-- The directive that decides about the records of a part: the last of the most specific. -/
def deciding? (filter : LogFilter) (source : LogSource) : Option LogDirective :=
  (filter.filter (·.isAbout source)).foldl
    (fun best directive =>
      if best.all directive.isAsSpecific then some directive else best) none

/-- Whether a record is written. -/
def admits (filter : LogFilter) (record : LogRecord) : Bool :=
  match filter.deciding? record.source with
  | none => false
  | some directive => directive.threshold.admits record.level

/-- The filter of a run. -/
def ofRun (text : Option String) (isVerbose : Bool) : LogFilter :=
  match text.bind (ofText? ·.toList) with
  | some filter => filter
  | none => [{ threshold := some (if isVerbose then .debug else .info) }]

end LogFilter

end MarkupLint
