import MarkupLint.Files.Path
import MarkupLint.Text.SuffixSet

namespace MarkupLint

/-!
# Exclude patterns

A pattern describes paths as plain texts: `?` stands for one character, `*` for
any text, a bracketed class for one of its characters, and a component `**` for
any number of folders.  None of them treats a slash or a leading dot specially.
There are no escapes: a class holds a special character that is meant literally.
A path that is no text is described by no pattern.
-/

/-- A part of an exclude pattern. -/
inductive PatternPiece where
  | literal (character : Char)
  | anyCharacter
  | anyText
  | anyFolders
  | oneOf (members : List (Char × Char))
  | noneOf (members : List (Char × Char))
  deriving Repr, DecidableEq

/-- A path pattern, part by part. -/
abbrev ExcludePattern := List PatternPiece

/-- What is wrong with a pattern. -/
inductive PatternFault where
  | tooManyStars
  | partialFolders
  | invalidClass
  deriving Repr, DecidableEq

namespace PatternFault

/-- The description of a fault. -/
def message : PatternFault → String
  | tooManyStars => "wildcards are either regular `*` or recursive `**`"
  | partialFolders => "recursive wildcards must form a single path component"
  | invalidClass => "invalid range pattern"

end PatternFault

/-- A fault and its position, counted in characters from zero. -/
structure PatternError where
  position : Nat
  fault : PatternFault
  deriving Repr, DecidableEq

namespace PatternError

/-- The description of an error. -/
def message (error : PatternError) : String :=
  "Pattern syntax error near position " ++ toString error.position ++ ": " ++ error.fault.message

end PatternError

namespace PatternPiece

/-- The members of a class: a range where a dash stands between two characters. -/
def classMembers : List Char → List (Char × Char)
  | low :: '-' :: high :: rest => (low, high) :: classMembers rest
  | character :: rest => (character, character) :: classMembers rest
  | [] => []

/-- Whether one of the ranges holds the character. -/
def holds (members : List (Char × Char)) (character : Char) : Bool :=
  members.any fun (low, high) =>
    Nat.ble low.toNat character.toNat && Nat.ble character.toNat high.toNat

/-- Whether the part stands for the single character. -/
def accepts : PatternPiece → Char → Bool
  | literal expected, character => expected == character
  | anyCharacter, _ => true
  | oneOf members, character => holds members character
  | noneOf members, character => !holds members character
  | anyText, _ => false
  | anyFolders, _ => false

end PatternPiece

namespace ExcludePattern

mutual

/--
Read a pattern from a position on; `previous` is the character before it.  A run
of stars is judged as a whole, and `**` has to fill a component.
-/
def read (position : Nat) (previous : Option Char) :
    List Char → Except PatternError ExcludePattern
  | [] => .ok []
  | '*' :: '*' :: '*' :: _ => .error ⟨position + 2, .tooManyStars⟩
  | ['*', '*'] =>
      if previous.all (· == '/') then
        .ok [.anyFolders]
      else
        .error ⟨position - 1, .partialFolders⟩
  | '*' :: '*' :: next :: rest =>
      if previous.all (· == '/') then
        if next = '/' then
          return .anyFolders :: (← read (position + 3) (some '/') rest)
        else
          .error ⟨position + 2, .partialFolders⟩
      else
        .error ⟨position - 1, .partialFolders⟩
  | '*' :: rest => return .anyText :: (← read (position + 1) (some '*') rest)
  | '?' :: rest => return .anyCharacter :: (← read (position + 1) (some '?') rest)
  | '[' :: '!' :: first :: rest =>
      readClass position .noneOf [first] (position + 3) rest
  | '[' :: first :: rest =>
      if first = '!' then
        .error ⟨position, .invalidClass⟩
      else
        readClass position .oneOf [first] (position + 2) rest
  | ['['] => .error ⟨position, .invalidClass⟩
  | character :: rest =>
      return .literal character :: (← read (position + 1) (some character) rest)

/--
Read a class that was opened at `start`, up to its closing bracket.  `collected`
holds the characters so far in reverse; the first one may be a bracket.
-/
def readClass (start : Nat) (make : List (Char × Char) → PatternPiece) (collected : List Char)
    (position : Nat) : List Char → Except PatternError ExcludePattern
  | [] => .error ⟨start, .invalidClass⟩
  | ']' :: rest =>
      return make (PatternPiece.classMembers collected.reverse) ::
        (← read (position + 1) (some ']') rest)
  | character :: rest => readClass start make (character :: collected) (position + 1) rest

end

/-- The pattern written in a text. -/
def ofText (text : List Char) : Except PatternError ExcludePattern :=
  read 0 none text

/--
The suffixes of a text that a pattern describes.  Any folders lead to the start of
a component or to the end of the text.
-/
def describedSuffixes (text : List Char) : ExcludePattern → SuffixSet
  | [] => .onlyEmpty text
  | piece :: pieces =>
      let set := describedSuffixes text pieces
      match piece with
      | .anyText => .afterItems (fun _ => true) text set
      | .anyFolders =>
          if set.holdsEmpty then
            set.map fun _ => true
          else
            set.union (.afterAny (· == '/') text set)
      | piece => .afterItem piece.accepts text set

/-- Whether the pattern describes the whole text. -/
def isMatch (pattern : ExcludePattern) (text : List Char) : Bool :=
  (describedSuffixes text pattern).holdsWhole

/-- Whether the pattern describes a path, which has to be a text. -/
def isPathMatch (pattern : ExcludePattern) (path : Path) : Bool :=
  path.text?.any pattern.isMatch

end ExcludePattern

end MarkupLint
