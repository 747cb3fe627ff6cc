import MarkupLint.Json.Value
import MarkupLint.Text.Numeral
import MarkupLint.Text.Search

namespace MarkupLint

/-!
# Reading JSON

The reader takes a value off the front of a text and returns the rest.  Its
recursion is bounded by a count that the length of the text always covers.
-/

namespace Json

/-- Whether a character may stand between the tokens of a JSON text. -/
def isBlank (character : Char) : Bool :=
  character == ' ' || character == '\t' || character == '\n' || character == '\r'

/-- The text without the blanks at its start. -/
def skipBlanks (text : List Char) : List Char :=
  text.dropWhile isBlank

/-- The code unit of four hexadecimal digits, and the rest of the text. -/
def codeUnit? : List Char → Option (Nat × List Char)
  | first :: second :: third :: fourth :: rest => do
      let first ← digitValue? first
      let second ← digitValue? second
      let third ← digitValue? third
      let fourth ← digitValue? fourth
      return (((first * 16 + second) * 16 + third) * 16 + fourth, rest)
  | _ => none

/-- The character of an escape that is a backslash and one more character. -/
def shortEscape? : Char → Option Char
  | '\x22' => some '\x22'
  | '\\' => some '\\'
  | '/' => some '/'
  | 'b' => some '\x08'
  | 'f' => some '\x0c'
  | 'n' => some '\n'
  | 'r' => some '\r'
  | 't' => some '\t'
  | _ => none

/--
The character of a numeric escape, whose digits come first in the text.  Two
escapes in a row make up a character outside the basic plane.
-/
def numericEscape? (text : List Char) : Option (Char × List Char) := do
  let (unit, rest) ← codeUnit? text
  if unit < 0xD800 ∨ 0xE000 ≤ unit then
    return (Char.ofNat unit, rest)
  else if unit < 0xDC00 then
    match rest with
    | '\\' :: 'u' :: rest =>
        let (low, rest) ← codeUnit? rest
        if 0xDC00 ≤ low ∧ low < 0xE000 then
          return (Char.ofNat (0x10000 + (unit - 0xD800) * 0x400 + (low - 0xDC00)), rest)
        else
          none
    | _ => none
  else
    none

/-- The characters of a string up to its closing quote, and the rest. -/
def stringBody? : (fuel : Nat) → List Char → Option (List Char × List Char)
  | 0, _ => none
  | _ + 1, [] => none
  | fuel + 1, character :: rest =>
      if character = '\x22' then
        some ([], rest)
      else if character = '\\' then
        match rest with
        | [] => none
        | 'u' :: digits => do
            let (decoded, rest) ← numericEscape? digits
            let (body, rest) ← stringBody? fuel rest
            return (decoded :: body, rest)
        | letter :: rest => do
            let decoded ← shortEscape? letter
            let (body, rest) ← stringBody? fuel rest
            return (decoded :: body, rest)
      else if character.toNat < 0x20 then
        none
      else do
        let (body, rest) ← stringBody? fuel rest
        return (character :: body, rest)

/-- A string after its opening quote. -/
def string? (fuel : Nat) (text : List Char) : Option (String × List Char) :=
  (stringBody? fuel text).map fun (body, rest) => (String.ofList body, rest)

/-- A non-empty run of decimal digits. -/
def digits? (text : List Char) : Option (List Char × List Char) :=
  match text.takeWhile Char.isDigit with
  | [] => none
  | digits => some (digits, text.dropWhile Char.isDigit)

/-- The fraction of a number, which may be missing. -/
def fraction? : List Char → Option (List Char × List Char)
  | '.' :: rest => (digits? rest).map fun (digits, rest) => ('.' :: digits, rest)
  | text => some ([], text)

/-- The sign of an exponent, which may be missing. -/
def exponentSign : List Char → List Char × List Char
  | '+' :: rest => (['+'], rest)
  | '-' :: rest => (['-'], rest)
  | text => ([], text)

/-- The exponent of a number, which may be missing. -/
def exponent? : List Char → Option (List Char × List Char)
  | [] => some ([], [])
  | mark :: rest =>
      if mark = 'e' ∨ mark = 'E' then
        let (sign, rest) := exponentSign rest
        (digits? rest).map fun (digits, rest) => (mark :: sign ++ digits, rest)
      else
        some ([], mark :: rest)

/-- A number without its sign: the integral digits, the remaining literal, the rest. -/
def magnitude? (text : List Char) : Option (List Char × List Char × List Char) := do
  let (digits, rest) ← digits? text
  if digits.head? = some '0' ∧ digits.length ≠ 1 then
    none
  else
    let (fraction, rest) ← fraction? rest
    let (exponent, rest) ← exponent? rest
    return (digits, fraction ++ exponent, rest)

/-- A number; a negative zero is no integer. -/
def number? : List Char → Option (Json × List Char)
  | '-' :: text => do
      let (digits, tail, rest) ← magnitude? text
      if tail.isEmpty ∧ numeralValue 10 digits ≠ 0 then
        return (integer (-(numeralValue 10 digits : Int)), rest)
      else
        return (decimal ('-' :: digits ++ tail), rest)
  | text => do
      let (digits, tail, rest) ← magnitude? text
      if tail.isEmpty then
        return (integer (numeralValue 10 digits), rest)
      else
        return (decimal (digits ++ tail), rest)

mutual

/-- A value at the start of a text, and the rest. -/
def value? : (fuel : Nat) → List Char → Option (Json × List Char)
  | 0, _ => none
  | fuel + 1, text =>
      match skipBlanks text with
      | [] => none
      | '\x22' :: rest => (string? fuel rest).map fun (value, rest) => (string value, rest)
      | '[' :: rest =>
          match skipBlanks rest with
          | ']' :: rest => some (array [], rest)
          | _ => (items? fuel rest).map fun (items, rest) => (array items, rest)
      | '\x7b' :: rest =>
          match skipBlanks rest with
          | '\x7d' :: rest => some (object [], rest)
          | _ => (members? fuel rest).map fun (members, rest) => (object members, rest)
      | 'n' :: rest => (afterStart? "ull".toList rest).map fun rest => (null, rest)
      | 't' :: rest => (afterStart? "rue".toList rest).map fun rest => (boolean true, rest)
      | 'f' :: rest => (afterStart? "alse".toList rest).map fun rest => (boolean false, rest)
      | text => number? text

/-- The items of an array up to its closing bracket. -/
def items? : (fuel : Nat) → List Char → Option (List Json × List Char)
  | 0, _ => none
  | fuel + 1, text =>
      match value? fuel text with
      | none => none
      | some (item, rest) =>
          match skipBlanks rest with
          | ',' :: rest => (items? fuel rest).map fun (items, rest) => (item :: items, rest)
          | ']' :: rest => some ([item], rest)
          | _ => none

/-- The members of an object up to its closing brace. -/
def members? : (fuel : Nat) → List Char → Option (List (String × Json) × List Char)
  | 0, _ => none
  | fuel + 1, text =>
      match skipBlanks text with
      | '\x22' :: rest =>
          match string? fuel rest with
          | none => none
          | some (name, rest) =>
              match skipBlanks rest with
              | ':' :: rest =>
                  match value? fuel rest with
                  | none => none
                  | some (value, rest) =>
                      match skipBlanks rest with
                      | ',' :: rest =>
                          (members? fuel rest).map fun (members, rest) =>
                            ((name, value) :: members, rest)
                      | '\x7d' :: rest => some ([(name, value)], rest)
                      | _ => none
              | _ => none
      | _ => none

end

/-- The value that a whole text stands for. -/
def parse? (text : List Char) : Option Json :=
  match value? (2 * text.length + 1) text with
  | some (value, rest) => if (skipBlanks rest).isEmpty then some value else none
  | none => none

end Json

end MarkupLint
