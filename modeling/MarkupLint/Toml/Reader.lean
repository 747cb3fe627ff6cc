import MarkupLint.Toml.Moment
import MarkupLint.Toml.Number
import MarkupLint.Toml.Text
import MarkupLint.Toml.Tree

namespace MarkupLint

/-!
# Reading configuration files

A file is a list of statements, one on a row: a header that opens a table, or a
key with its value.  `statements?` reads them and `parse?` builds the table they
define.  There are no error messages: a text is either a configuration or not.

Arrays and tables in braces may be nested less than eighty deep, and a dotted
key has less than eighty parts.
-/

namespace Toml

/-- The greatest nesting depth of a value and the greatest length of a key. -/
def depthLimit : Nat := 79

/-- A key with the tables that lead to it. -/
structure Key where
  path : List String
  last : String
  deriving Repr, DecidableEq

/-- A row of a configuration file. -/
inductive Statement where
  | assignment (key : Key) (value : Value)
  | header (key : Key)
  | nextHeader (key : Key)
  deriving Repr

/-- Whether a character may stand in a key without quotes. -/
def isBareKeyCharacter (character : Char) : Bool :=
  character.isAlphanum || character == '_' || character == '-'

/-- One part of a dotted key. -/
def keyPart? (text : List Char) : Option (String × List Char) :=
  match text with
  | '\x22' :: rest =>
      (basicText? (rest.length + 1) rest).map fun (part, rest) => (String.ofList part, rest)
  | '\x27' :: rest => (literalText? rest).map fun (part, rest) => (String.ofList part, rest)
  | _ =>
      match text.takeWhile isBareKeyCharacter with
      | [] => none
      | part => some (String.ofList part, text.dropWhile isBareKeyCharacter)

/-- A key of at most `limit` parts with the blanks around it. -/
def key? : (limit : Nat) → List Char → Option (Key × List Char)
  | 0, _ => none
  | limit + 1, text => do
      let (part, rest) ← keyPart? (skipBlanks text)
      match skipBlanks rest with
      | '.' :: rest =>
          let (key, rest) ← key? limit rest
          return (⟨part :: key.path, key.last⟩, rest)
      | rest => return (⟨[], part⟩, rest)

/-- The text from the end of a row on; a comment may stand before it. -/
def skipComment (text : List Char) : List Char :=
  match skipBlanks text with
  | '#' :: rest => rest.dropWhile isPlain
  | rest => rest

/-- The text after the end of a row, or after the end of the file. -/
def afterRow? (text : List Char) : Option (List Char) :=
  match skipComment text with
  | [] => some []
  | rest => afterLineEnd? rest

/-- The text without blanks, comments and line ends at its start. -/
def skipRows : (fuel : Nat) → List Char → List Char
  | 0, text => text
  | fuel + 1, text =>
      match afterLineEnd? (skipComment text) with
      | some rest => skipRows fuel rest
      | none => skipBlanks text

/-- The text without everything that may stand between the items of an array. -/
def skipFiller (text : List Char) : List Char :=
  match afterLineEnd? (skipComment text) with
  | some rest => skipRows rest.length rest
  | none => skipBlanks text

/-- The items of an array up to its closing bracket. -/
def items? (item? : List Char → Option (Value × List Char)) :
    (fuel : Nat) → List Char → Option (List Value × List Char)
  | 0, _ => none
  | fuel + 1, text =>
      match skipFiller text with
      | ']' :: rest => some ([], rest)
      | text => do
          let (item, rest) ← item? text
          match skipFiller rest with
          | ',' :: rest =>
              let (items, rest) ← items? item? fuel rest
              return (item :: items, rest)
          | ']' :: rest => return ([item], rest)
          | _ => none

/-- The entries of a table in braces up to the closing brace. -/
def members? (item? : List Char → Option (Value × List Char)) :
    (fuel : Nat) → List Char → Option (List (Key × Value) × List Char)
  | 0, _ => none
  | fuel + 1, text => do
      let (key, rest) ← key? depthLimit text
      let rest ← after? '=' rest
      let (value, rest) ← item? (skipBlanks rest)
      match skipBlanks rest with
      | ',' :: rest =>
          let (members, rest) ← members? item? fuel rest
          return ((key, value) :: members, rest)
      | '\x7d' :: rest => return ([(key, value)], rest)
      | _ => none

/-- The table that the entries between two braces define. -/
def braced? (members : List (Key × Value)) : Option Value := do
  let entries ← members.foldlM
    (fun entries (key, value) => Entries.assign? key.path key.last value entries) []
  return .table (entriesToValues entries)

/-- A number, a date or a time. -/
def numeric? (text : List Char) : Option (Value × List Char) :=
  match afterMoment? text with
  | some rest => some (.moment, rest)
  | none =>
      match afterFloat? text with
      | some rest => some (.float, rest)
      | none => (integer? text).map fun (number, rest) => (.integer number, rest)

/-- A value that holds no other values. -/
def scalar? (text : List Char) : Option (Value × List Char) :=
  match text with
  | '\x22' :: _ => (text? text).map fun (content, rest) => (.string (String.ofList content), rest)
  | '\x27' :: _ => (text? text).map fun (content, rest) => (.string (String.ofList content), rest)
  | 't' :: _ => (afterStart? "true".toList text).map fun rest => (.boolean true, rest)
  | 'f' :: _ => (afterStart? "false".toList text).map fun rest => (.boolean false, rest)
  | _ => numeric? text

/-- A value that nests at most `depth` further arrays and tables. -/
def value? : (depth : Nat) → List Char → Option (Value × List Char)
  | 0, text => scalar? text
  | depth + 1, text =>
      match text with
      | '[' :: rest =>
          (items? (value? depth) (rest.length + 1) rest).map fun (items, rest) =>
            (.array items, rest)
      | '\x7b' :: rest =>
          match skipBlanks rest with
          | '\x7d' :: rest => some (.table [], rest)
          | _ => do
              let (members, rest) ← members? (value? depth) (rest.length + 1) rest
              let table ← braced? members
              return (table, rest)
      | _ => scalar? text

/-- A key with its value, on a row of its own. -/
def assignment? (text : List Char) : Option (Statement × List Char) := do
  let (key, rest) ← key? depthLimit text
  let rest ← after? '=' rest
  let (value, rest) ← value? depthLimit (skipBlanks rest)
  let rest ← afterRow? rest
  return (.assignment key value, rest)

/-- A header after its opening bracket or brackets. -/
def header? (make : Key → Statement) (closing text : List Char) :
    Option (Statement × List Char) := do
  let (key, rest) ← key? depthLimit text
  let rest ← afterStart? closing rest
  let rest ← afterRow? rest
  return (make key, rest)

/-- One statement and the rest of the file. -/
def statement? : List Char → Option (Statement × List Char)
  | '[' :: '[' :: rest => header? .nextHeader [']', ']'] rest
  | '[' :: rest => header? .header [']'] rest
  | text => assignment? text

/-- All statements of a file. -/
def statements? : (fuel : Nat) → List Char → Option (List Statement)
  | 0, _ => none
  | fuel + 1, text =>
      match skipComment text with
      | [] => some []
      | rest =>
          match afterLineEnd? rest with
          | some rest => statements? fuel rest
          | none => do
              let (statement, rest) ← statement? (skipBlanks text)
              let statements ← statements? fuel rest
              return statement :: statements

/-- A table under construction and the table that the last header has opened. -/
structure Progress where
  entries : Entries
  opened : List String
  deriving Repr

namespace Progress

/-- Add a value below the table that is open. -/
def assign? (progress : Progress) (key : Key) (value : Value) : Option Progress := do
  let entries ← Entries.change? .implied
    (fun _ below => below.assign? key.path key.last value) progress.opened .header progress.entries
  return { progress with entries }

/-- Carry out one statement. -/
def step? (progress : Progress) : Statement → Option Progress
  | .assignment key value => progress.assign? key value
  | .header key => do
      let entries ← progress.entries.openTable? key.path key.last
      return ⟨entries, key.path ++ [key.last]⟩
  | .nextHeader key => do
      let entries ← progress.entries.openNext? key.path key.last
      return ⟨entries, key.path ++ [key.last]⟩

end Progress

/-- The text without a byte order mark at its start. -/
def skipByteOrderMark : List Char → List Char
  | '\ufeff' :: rest => rest
  | text => text

/-- The entries of the table that a configuration file defines. -/
def parse? (text : List Char) : Option (List (String × Value)) := do
  let text := skipByteOrderMark text
  let statements ← statements? (text.length + 1) text
  let progress ← statements.foldlM Progress.step? ⟨[], []⟩
  return entriesToValues progress.entries

end Toml

end MarkupLint
