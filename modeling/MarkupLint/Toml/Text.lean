import MarkupLint.Text.Numeral

namespace MarkupLint

/-!
# Strings of configuration files

There are four notations: with escapes or literal, on one row or on several.
Each reader takes the characters after the opening delimiter and returns the
text together with what follows the closing one.

A string over several rows drops a line feed right after its opening delimiter,
writes every line end as a line feed, and may end in up to two quotes of its own
before the closing three.
-/

namespace Toml

/-- Whether a character may stand in a string or a comment as it is. -/
def isPlain (character : Char) : Bool :=
  character == '\t' || (Nat.ble 0x20 character.toNat && character != '\x7f')

/-- Whether a character is a space or a tab. -/
def isBlank (character : Char) : Bool :=
  character == ' ' || character == '\t'

/-- The text without the spaces and tabs at its start. -/
def skipBlanks (text : List Char) : List Char :=
  text.dropWhile isBlank

/-- The text after a line end. -/
def afterLineEnd? : List Char → Option (List Char)
  | '\n' :: rest => some rest
  | '\r' :: '\n' :: rest => some rest
  | _ => none

/-- The character of an escape that is a backslash and one more character. -/
def shortEscape? : Char → Option Char
  | 'b' => some '\x08'
  | 't' => some '\t'
  | 'n' => some '\n'
  | 'f' => some '\x0c'
  | 'r' => some '\r'
  | '\x22' => some '\x22'
  | '\\' => some '\\'
  | _ => none

/-- The character whose code point is written in hexadecimal digits. -/
def codePoint? (digits : List Char) : Option Char := do
  let values ← digits.mapM digitValue?
  let value := values.foldl (· * 16 + ·) 0
  if value < 0xD800 ∨ (0xE000 ≤ value ∧ value < 0x110000) then
    return Char.ofNat value
  else
    none

/-- The character of an escape, after the backslash, and the rest. -/
def escape? : List Char → Option (Char × List Char)
  | 'u' :: rest =>
      if rest.length < 4 then
        none
      else
        (codePoint? (rest.take 4)).map fun character => (character, rest.drop 4)
  | 'U' :: rest =>
      if rest.length < 8 then
        none
      else
        (codePoint? (rest.take 8)).map fun character => (character, rest.drop 8)
  | letter :: rest => (shortEscape? letter).map fun character => (character, rest)
  | [] => none

/-- A string with escapes on one row. -/
def basicText? : (fuel : Nat) → List Char → Option (List Char × List Char)
  | 0, _ => none
  | _ + 1, [] => none
  | fuel + 1, character :: rest =>
      if character = '\x22' then
        some ([], rest)
      else if character = '\\' then do
        let (decoded, rest) ← escape? rest
        let (text, rest) ← basicText? fuel rest
        return (decoded :: text, rest)
      else if isPlain character then do
        let (text, rest) ← basicText? fuel rest
        return (character :: text, rest)
      else
        none

/-- A literal string on one row. -/
def literalText? : List Char → Option (List Char × List Char)
  | [] => none
  | character :: rest =>
      if character = '\x27' then
        some ([], rest)
      else if isPlain character then
        (literalText? rest).map fun (text, rest) => (character :: text, rest)
      else
        none

/--
The end of a string over several rows: three quotes, and up to two more that
belong to the string.
-/
def closing? (quote : Char) (text : List Char) : Option (List Char × List Char) :=
  let run := (text.takeWhile (· == quote)).length
  if run < 3 then
    none
  else
    let own := min run 5 - 3
    some (List.replicate own quote, text.drop (own + 3))

/-- The text without the blanks and line ends at its start. -/
def skipFolded : (fuel : Nat) → List Char → List Char
  | 0, text => text
  | fuel + 1, text =>
      match afterLineEnd? (skipBlanks text) with
      | some rest => skipFolded fuel rest
      | none => skipBlanks text

/-- A string with escapes over several rows. -/
def basicRows? : (fuel : Nat) → List Char → Option (List Char × List Char)
  | 0, _ => none
  | fuel + 1, text =>
      match closing? '\x22' text, afterLineEnd? text, text with
      | some closed, _, _ => some closed
      | none, some rest, _ => do
          let (body, rest) ← basicRows? fuel rest
          return ('\n' :: body, rest)
      | none, none, [] => none
      | none, none, '\\' :: rest =>
          match afterLineEnd? (skipBlanks rest) with
          | some folded => basicRows? fuel (skipFolded folded.length folded)
          | none => do
              let (decoded, rest) ← escape? rest
              let (body, rest) ← basicRows? fuel rest
              return (decoded :: body, rest)
      | none, none, character :: rest =>
          if isPlain character then do
            let (body, rest) ← basicRows? fuel rest
            return (character :: body, rest)
          else
            none

/-- A literal string over several rows. -/
def literalRows? : (fuel : Nat) → List Char → Option (List Char × List Char)
  | 0, _ => none
  | fuel + 1, text =>
      match closing? '\x27' text, afterLineEnd? text, text with
      | some closed, _, _ => some closed
      | none, some rest, _ => do
          let (body, rest) ← literalRows? fuel rest
          return ('\n' :: body, rest)
      | none, none, [] => none
      | none, none, character :: rest =>
          if isPlain character then do
            let (body, rest) ← literalRows? fuel rest
            return (character :: body, rest)
          else
            none

/-- The text without the line end that may follow an opening delimiter. -/
def afterOpening (text : List Char) : List Char :=
  (afterLineEnd? text).getD text

/-- A string in any of the four notations, its opening delimiter included. -/
def text? : List Char → Option (List Char × List Char)
  | '\x22' :: '\x22' :: '\x22' :: rest => basicRows? (rest.length + 1) (afterOpening rest)
  | '\x22' :: rest => basicText? (rest.length + 1) rest
  | '\x27' :: '\x27' :: '\x27' :: rest => literalRows? (rest.length + 1) (afterOpening rest)
  | '\x27' :: rest => literalText? rest
  | _ => none

end Toml

end MarkupLint
