import MarkupLint.Files.Ignore.Glob
import MarkupLint.Text.Search
import MarkupLint.Text.Utf8
import MarkupLint.Text.WhiteSpace

namespace MarkupLint

/-!
# Ignore files

An ignore file has one rule on a row.  A rule names paths below the folder of
the file: with a slash inside it describes whole paths, without one it describes
a name anywhere below.  An exclamation mark turns a rule into an exception, and
the last rule that applies to a path decides about it.
-/

/-- A rule of an ignore file. -/
structure IgnoreRule where
  glob : List GlobPiece
  isException : Bool
  onlyDirectories : Bool
  deriving Repr

/-- What an ignore file says about a path. -/
inductive IgnoreVerdict where
  | ignored
  | kept
  | undecided
  deriving Repr, DecidableEq

namespace IgnoreVerdict

/-- The first verdict that decides something. -/
def orElse : IgnoreVerdict → IgnoreVerdict → IgnoreVerdict
  | undecided, verdict => verdict
  | verdict, _ => verdict

end IgnoreVerdict

/-- Why a row of an ignore file cannot be read. -/
inductive IgnoreRowError where
  | notText
  | badGlob (rule : List Char) (error : GlobError)
  deriving Repr, DecidableEq

namespace IgnoreRowError

/-- The description of an error. -/
def message : IgnoreRowError → String
  | notText => "stream did not contain valid UTF-8"
  | badGlob rule error =>
      "error parsing glob '" ++ String.ofList rule ++ "': " ++ error.message

end IgnoreRowError

namespace IgnoreRule

/-- A row without the white space at its end, unless a backslash protects it. -/
def trimRow (row : List Char) : List Char :=
  if ['\\', ' '].isSuffixOf row then row else trimEnd row

/-- A rule without its exclamation mark: whether it had one, and the rest. -/
def splitException : List Char → Bool × List Char
  | '!' :: rest => (true, rest)
  | text => (false, text)

/-- A rule without its leading slash: whether it had one, and the rest. -/
def splitAnchor : List Char → Bool × List Char
  | '/' :: rest => (true, rest)
  | text => (false, text)

/-- A rule without the slash at its end: whether it had one, and the rest. -/
def splitDirectoryMark (text : List Char) : Bool × List Char :=
  match text.reverse with
  | '/' :: '\\' :: reversed => (true, reversed.reverse)
  | '/' :: reversed => (true, reversed.reverse)
  | _ => (false, text)

/-- The glob text of a rule, relative to the folder of the ignore file. -/
def globText (isAnchored : Bool) (text : List Char) : List Char :=
  let anywhere :=
    if isAnchored || text.contains '/' || text == "**".toList then
      text
    else
      "**/".toList ++ text
  if "/**".toList.isSuffixOf anywhere then
    anywhere ++ "/*".toList
  else
    anywhere

/-- The rule on a row; a comment or an empty row holds none. -/
def ofRow (row : List Char) : Except IgnoreRowError (Option IgnoreRule) :=
  let text := trimRow row
  if row.head? = some '#' ∨ text.isEmpty then
    .ok none
  else
    let escaped := "\\!".toList.isPrefixOf text || "\\#".toList.isPrefixOf text
    let (isException, bare) := if escaped then (false, text.drop 1) else splitException text
    let (isAnchored, bare) := if escaped then (false, bare) else splitAnchor bare
    let (onlyDirectories, bare) := splitDirectoryMark bare
    match Glob.ofText (globText isAnchored bare) with
    | .ok glob => .ok (some ⟨glob, isException, onlyDirectories⟩)
    | .error error => .error (.badGlob text error)

/-- Whether the rule speaks about a path. -/
def appliesTo (rule : IgnoreRule) (path : List UInt8) (isDirectory : Bool) : Bool :=
  (!rule.onlyDirectories || isDirectory) && Glob.isMatch rule.glob path

/-- The verdict of a rule that speaks about a path. -/
def verdict (rule : IgnoreRule) : IgnoreVerdict :=
  if rule.isException then .kept else .ignored

end IgnoreRule

/-- The rules of an ignore file in order. -/
abbrev IgnoreRules := List IgnoreRule

namespace IgnoreRules

/-- What the rules say about a path: the last one that applies decides. -/
def verdict (rules : IgnoreRules) (path : List UInt8) (isDirectory : Bool) : IgnoreVerdict :=
  match rules.reverse.find? (·.appliesTo path isDirectory) with
  | some rule => rule.verdict
  | none => .undecided

end IgnoreRules

namespace IgnoreFile

/-- A row without the carriage return before its line feed. -/
def dropCarriageReturn (row : List UInt8) : List UInt8 :=
  if row.getLast? = some 0x0D then row.dropLast else row

/-- The bytes of each row; what follows the last line feed is a row as it stands. -/
def rowBytes (bytes : List UInt8) : List (List UInt8) :=
  let pieces := splitAtEach 0x0A bytes
  pieces.dropLast.map dropCarriageReturn ++ pieces.getLast?.toList

/-- The texts up to the first row that is none, which is the last to be read. -/
def untilBroken : List (Option (List Char)) → List (Option (List Char))
  | [] => []
  | none :: _ => [none]
  | some row :: rows => some row :: untilBroken rows

/-- The texts without a byte order mark before the first. -/
def dropMark : List (Option (List Char)) → List (Option (List Char))
  | some first :: others => some (first.dropWhile (· == '\ufeff')) :: others
  | rows => rows

/-- What stands on each row: a rule, nothing, or an error. -/
def readRows (bytes : List UInt8) : List (Except IgnoreRowError (Option IgnoreRule)) :=
  (dropMark (untilBroken ((rowBytes bytes).map Utf8.decode?))).map fun row =>
    match row with
    | some text => IgnoreRule.ofRow text
    | none => .error .notText

/-- The rules of an ignore file; rows that cannot be read are passed over. -/
def rules (bytes : List UInt8) : IgnoreRules :=
  (readRows bytes).filterMap fun row =>
    match row with
    | .ok rule => rule
    | .error _ => none

/-- The rows of an ignore file that cannot be read, with their numbers. -/
def brokenRows (bytes : List UInt8) : List (Nat × IgnoreRowError) :=
  (readRows bytes).zipIdx.filterMap fun (row, index) =>
    match row with
    | .ok _ => none
    | .error error => some (index + 1, error)

/--
The errors of an ignore file with the numbers of their rows.  A row that is no text
counts only beside a rule that cannot be read.
-/
def errors (bytes : List UInt8) : List (Nat × IgnoreRowError) :=
  match brokenRows bytes with
  | [(_, .notText)] => []
  | errors => errors

end IgnoreFile

end MarkupLint
