import MarkupLint.Text.LetterCase

namespace MarkupLint

/-!
# Lower case

Lower-casing a text maps each character by the tables of `LetterCase`.  Two
characters need more than the tables: a capital I with a dot becomes two
characters, and a capital sigma becomes a final sigma at the end of a word.
-/

/-- The lower-case form of a character on its own. -/
def lowercaseCharacter (character : Char) : List Char :=
  if character.toNat < 0x80 then
    [character.toLower]
  else if character = '\u0130' then
    ['i', '\u0307']
  else
    match lowercaseRuns.find? (·.covers character.toNat) with
    | some run => [Char.ofNat (run.lower character.toNat)]
    | none => [character]

/--
Whether a cased letter comes first in the text once case-ignorable characters
are skipped.
-/
def reachesCased (text : List Char) : Bool :=
  match text.dropWhile caseIgnorableRanges.contains with
  | [] => false
  | character :: _ => casedRanges.contains character

/--
A capital sigma ends a word when a cased letter stands before it and none
follows; `before` is the text to its left, nearest character first.
-/
def endsWord (before after : List Char) : Bool :=
  reachesCased before && !reachesCased after

/-- Lower-case a text that follows `before`, which is given in reverse. -/
def lowercaseAfter (before : List Char) : List Char → List Char
  | [] => []
  | character :: text =>
      let lowered :=
        if character = 'Σ' then
          [if endsWord before text then 'ς' else 'σ']
        else
          lowercaseCharacter character
      lowered ++ lowercaseAfter (character :: before) text

/-- The lower-case form of a text. -/
def lowercase (text : List Char) : List Char :=
  lowercaseAfter [] text

end MarkupLint
