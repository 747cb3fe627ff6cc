import MarkupLint.Text.Numeral
import MarkupLint.Text.Search

namespace MarkupLint

/-!
# Numbers of configuration files

Integers have 64 bits and may be written in four bases.  An underscore may stand
between two digits.  A floating-point number has a fraction, an exponent or
both; one that is too large for double precision is refused unless it is
negative.
-/

namespace Toml

/-- The digits after the first one, underscores left out, and the rest. -/
def moreDigits (isDigit : Char → Bool) : List Char → List Char × List Char
  | '_' :: digit :: rest =>
      if isDigit digit then
        let (digits, rest) := moreDigits isDigit rest
        (digit :: digits, rest)
      else
        ([], '_' :: digit :: rest)
  | digit :: rest =>
      if isDigit digit then
        let (digits, rest) := moreDigits isDigit rest
        (digit :: digits, rest)
      else
        ([], digit :: rest)
  | [] => ([], [])

/-- One or more digits, underscores left out, and the rest. -/
def digits? (isDigit : Char → Bool) : List Char → Option (List Char × List Char)
  | [] => none
  | digit :: rest =>
      if isDigit digit then
        let (digits, rest) := moreDigits isDigit rest
        some (digit :: digits, rest)
      else
        none

/-- Decimal digits of a number, which starts with zero only if it is zero. -/
def wholeDigits? : List Char → Option (List Char × List Char)
  | '0' :: rest => some (['0'], rest)
  | text => digits? Char.isDigit text

/-- An optional sign: whether it is a minus, and the rest. -/
def sign : List Char → Bool × List Char
  | '-' :: rest => (true, rest)
  | '+' :: rest => (false, rest)
  | text => (false, text)

/-- Whether a number fits in 64 bits with a sign. -/
def fits (number : Int) : Bool :=
  -Int.pow 2 63 ≤ number && number < Int.pow 2 63

/-- A number that fits, together with the rest. -/
def fitting? (number : Int) (rest : List Char) : Option (Int × List Char) :=
  if fits number then some (number, rest) else none

/-- An integer in base sixteen, eight or two, after its two-character mark. -/
def radixInteger? (base : Nat) (text : List Char) : Option (Int × List Char) := do
  let (digits, rest) ← digits? (fun digit => ((digitValue? digit).any (· < base))) text
  fitting? (numeralValue base digits) rest

/-- A decimal integer with an optional sign. -/
def decimalInteger? (text : List Char) : Option (Int × List Char) := do
  let (negative, rest) := sign text
  let (digits, rest) ← wholeDigits? rest
  let magnitude : Int := numeralValue 10 digits
  fitting? (if negative then -magnitude else magnitude) rest

/-- An integer in any of the four bases. -/
def integer? : List Char → Option (Int × List Char)
  | '0' :: 'x' :: rest => radixInteger? 16 rest
  | '0' :: 'o' :: rest => radixInteger? 8 rest
  | '0' :: 'b' :: rest => radixInteger? 2 rest
  | text => decimalInteger? text

/-- The exponent of a floating-point number. -/
def exponent? : List Char → Option (Int × List Char)
  | [] => none
  | mark :: rest =>
      if mark = 'e' ∨ mark = 'E' then do
        let (negative, rest) := sign rest
        let (digits, rest) ← digits? Char.isDigit rest
        let magnitude : Int := numeralValue 10 digits
        return (if negative then -magnitude else magnitude, rest)
      else
        none

/-- The fraction of a floating-point number. -/
def fraction? : List Char → Option (List Char × List Char)
  | '.' :: rest => digits? Char.isDigit rest
  | _ => none

/-- The least number that is rounded to infinity in double precision. -/
def overflowThreshold : Nat :=
  Nat.pow 2 1024 - Nat.pow 2 970

/--
Whether `mantissa * 10 ^ exponent` is rounded to infinity.  The number of digits
settles all but a few exponents, so no large power is ever computed.
-/
def overflows (mantissa : Nat) (exponent : Int) : Bool :=
  let magnitude : Int := (numeral mantissa).length + exponent
  if mantissa = 0 ∨ magnitude < 308 then
    false
  else if 310 < magnitude then
    true
  else if 0 ≤ exponent then
    Nat.ble overflowThreshold (mantissa * Nat.pow 10 exponent.toNat)
  else
    Nat.ble (overflowThreshold * Nat.pow 10 (-exponent).toNat) mantissa

/-- The fraction and the exponent behind the whole digits; one of them is there. -/
def fractionAndExponent? (text : List Char) : Option (List Char × Int × List Char) :=
  match fraction? text with
  | some (fraction, rest) =>
      match exponent? rest with
      | some (exponent, rest) => some (fraction, exponent, rest)
      | none => some (fraction, 0, rest)
  | none => (exponent? text).map fun (exponent, rest) => ([], exponent, rest)

/-- A floating-point number in digits. -/
def finiteFloat? (text : List Char) : Option (List Char) := do
  let (negative, rest) := sign text
  let (whole, rest) ← wholeDigits? rest
  let (fraction, exponent, rest) ← fractionAndExponent? rest
  if !negative && overflows (numeralValue 10 (whole ++ fraction)) (exponent - fraction.length) then
    none
  else
    return rest

/-- The text after a floating-point number. -/
def afterFloat? (text : List Char) : Option (List Char) :=
  match finiteFloat? text with
  | some rest => some rest
  | none =>
      let (_, rest) := sign text
      match afterStart? "inf".toList rest with
      | some rest => some rest
      | none => afterStart? "nan".toList rest

end Toml

end MarkupLint
