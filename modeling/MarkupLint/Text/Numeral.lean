namespace MarkupLint

/-!
# Numerals

Natural numbers in decimal notation, and the digits of a base up to sixteen.
-/

/-- The digit for a number below sixteen, with small letters above nine. -/
def digitCharacter (digit : Nat) : Char :=
  if digit < 10 then
    Char.ofNat ('0'.toNat + digit)
  else
    Char.ofNat ('a'.toNat + (digit - 10))

/-- The decimal numeral of a number. -/
def numeral (number : Nat) : List Char :=
  if number < 10 then
    [digitCharacter number]
  else
    numeral (number / 10) ++ [digitCharacter (number % 10)]

/-- The value of a hexadecimal digit in either letter case. -/
def digitValue? (character : Char) : Option Nat :=
  if '0' ≤ character ∧ character ≤ '9' then
    some (character.toNat - '0'.toNat)
  else if 'a' ≤ character ∧ character ≤ 'f' then
    some (character.toNat - 'a'.toNat + 10)
  else if 'A' ≤ character ∧ character ≤ 'F' then
    some (character.toNat - 'A'.toNat + 10)
  else
    none

/-- The number that digits stand for in a base; other characters count as zero. -/
def numeralValue (base : Nat) (digits : List Char) : Nat :=
  digits.foldl (fun value digit => value * base + (digitValue? digit).getD 0) 0

end MarkupLint
