import MarkupLint.Text.Numeral

namespace MarkupLint

/-!
# Dates and times of configuration files

A date, a time of day, or both with an optional offset.  Only their validity
matters, so the readers return nothing but the rest of the text.
-/

namespace Toml

/-- A number of exactly two digits within bounds. -/
def twoDigits? (low high : Nat) : List Char → Option (Nat × List Char)
  | first :: second :: rest =>
      let value := numeralValue 10 [first, second]
      if first.isDigit && second.isDigit && Nat.ble low value && Nat.ble value high then
        some (value, rest)
      else
        none
  | _ => none

/-- A year of exactly four digits. -/
def year? : List Char → Option (Nat × List Char)
  | first :: second :: third :: fourth :: rest =>
      let digits := [first, second, third, fourth]
      if digits.all Char.isDigit then
        some (numeralValue 10 digits, rest)
      else
        none
  | _ => none

/-- Whether a year has a twenty-ninth of February. -/
def isLeapYear (year : Nat) : Bool :=
  year % 4 == 0 && (year % 100 != 0 || year % 400 == 0)

/-- The number of days of a month. -/
def daysInMonth (year month : Nat) : Nat :=
  if month = 2 then
    if isLeapYear year then 29 else 28
  else if month = 4 ∨ month = 6 ∨ month = 9 ∨ month = 11 then
    30
  else
    31

/-- The text after one expected character. -/
def after? (expected : Char) : List Char → Option (List Char)
  | [] => none
  | character :: rest => if character = expected then some rest else none

/-- The text after a date. -/
def afterDate? (text : List Char) : Option (List Char) := do
  let (year, rest) ← year? text
  let rest ← after? '-' rest
  let (month, rest) ← twoDigits? 1 12 rest
  let rest ← after? '-' rest
  let (_, rest) ← twoDigits? 1 (daysInMonth year month) rest
  return rest

/-- The text after the fraction of a second, which may be missing. -/
def afterSecondFraction : List Char → List Char
  | '.' :: digit :: rest =>
      if digit.isDigit then
        rest.dropWhile Char.isDigit
      else
        '.' :: digit :: rest
  | text => text

/-- The text after a time of day. -/
def afterTime? (text : List Char) : Option (List Char) := do
  let (_, rest) ← twoDigits? 0 23 text
  let rest ← after? ':' rest
  let (_, rest) ← twoDigits? 0 59 rest
  let rest ← after? ':' rest
  let (_, rest) ← twoDigits? 0 60 rest
  return afterSecondFraction rest

/-- The text after a numeric offset, which follows its sign. -/
def afterNumericOffset? (text : List Char) : Option (List Char) := do
  let (_, rest) ← twoDigits? 0 23 text
  let rest ← after? ':' rest
  let (_, rest) ← twoDigits? 0 59 rest
  return rest

/-- The text after an offset, which may be missing. -/
def afterOffset : List Char → List Char
  | [] => []
  | character :: rest =>
      if character = 'Z' ∨ character = 'z' then
        rest
      else if character = '+' ∨ character = '-' then
        (afterNumericOffset? rest).getD (character :: rest)
      else
        character :: rest

/-- The text after the time that may follow a date. -/
def afterTimeOfDate : List Char → List Char
  | [] => []
  | character :: rest =>
      if character = 'T' ∨ character = 't' ∨ character = ' ' then
        match afterTime? rest with
        | some rest => afterOffset rest
        | none => character :: rest
      else
        character :: rest

/-- The text after a date, a time of day or both. -/
def afterMoment? (text : List Char) : Option (List Char) :=
  match afterDate? text with
  | some rest => some (afterTimeOfDate rest)
  | none => afterTime? text

end Toml

end MarkupLint
