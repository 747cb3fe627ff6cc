import MarkupLint.Text.SuffixSet
import MarkupLint.Text.Utf8

namespace MarkupLint

/-!
# Globs of ignore files

An ignore file describes relative paths by globs in which `*` and `?` stay
within one component, `**` crosses components, braces hold alternatives and a
backslash takes the next character literally.  A bracket that is never closed
is a character like any other.  Paths are compared as bytes, so `?` stands for
one byte of a name.
-/

/-- A part of a glob. -/
inductive GlobPiece where
  | byte (value : UInt8)
  | anyByte
  | anyBytes
  /-- Any number of folders at the start. -/
  | leadingFolders
  /-- Everything inside a folder. -/
  | insideFolder
  /-- A slash, with any number of folders behind it. -/
  | innerFolders
  | byteClass (negated : Bool) (ranges : List (UInt8 × UInt8))
  /-- One of the branches, none of which is void; without any, the empty text. -/
  | alternatives (branches : List (List GlobPiece))
  deriving Repr

/-- What is wrong with a glob. -/
inductive GlobError where
  | invalidRange (low high : Char)
  | unopenedAlternatives
  | unclosedAlternatives
  | danglingEscape
  deriving Repr, DecidableEq

namespace GlobError

/-- The description of an error. -/
def message : GlobError → String
  | invalidRange low high =>
      "invalid range; '" ++ low.toString ++ "' > '" ++ high.toString ++ "'"
  | unopenedAlternatives =>
      "unopened alternate group; missing '\x7b' (maybe escape '\x7d' with '[\x7d]'?)"
  | unclosedAlternatives =>
      "unclosed alternate group; missing '\x7d' (maybe escape '\x7b' with '[\x7b]'?)"
  | danglingEscape => "dangling '\\'"

end GlobError

/-- The byte of a slash. -/
def slash : UInt8 := 0x2F

namespace GlobPiece

/-- The bytes of a range of characters. -/
def byteRanges (low high : Char) : List (UInt8 × UInt8) :=
  let single := fun byte => (byte, byte)
  if low = high then
    (Utf8.encodeCharacter low).map single
  else
    match (Utf8.encodeCharacter low).reverse, Utf8.encodeCharacter high with
    | lowLast :: lowFirst, highFirst :: highLast =>
        lowFirst.reverse.map single ++ (lowLast, highFirst) :: highLast.map single
    | _, _ => []

/-- Whether the part is a group of alternatives that are all void. -/
def isVoid : GlobPiece → Bool
  | alternatives [] => true
  | _ => false

end GlobPiece

/-- A class in brackets, and the number of characters it takes behind the first one. -/
structure GlobClass where
  negated : Bool
  ranges : List (Char × Char)
  length : Nat
  deriving Repr, DecidableEq

namespace GlobClass

/-- The part of a glob that a class stands for. -/
def piece (members : GlobClass) : GlobPiece :=
  .byteClass members.negated
    (members.ranges.flatMap fun (low, high) => GlobPiece.byteRanges low high)

/--
Read the members of a class up to its closing bracket, if there is one.  `ranges`
holds the members so far in reverse, and `isOpen` says that a dash awaits the end
of its range.  The first member may be a bracket or a dash, and a range that runs
backwards is an error even in a class that is never closed.
-/
def readMembers (negated : Bool) (ranges : List (Char × Char)) (isOpen : Bool) (length : Nat) :
    List Char → Except GlobError (Option GlobClass)
  | [] => .ok none
  | character :: rest =>
      match ranges with
      | [] => readMembers negated [(character, character)] false (length + 1) rest
      | (low, high) :: others =>
          if character = ']' then
            let ranges := if isOpen then ('-', '-') :: ranges else ranges
            .ok (some ⟨negated, ranges.reverse, length + 1⟩)
          else if isOpen then
            if character < low then
              .error (.invalidRange low character)
            else
              readMembers negated ((low, character) :: others) false (length + 1) rest
          else if character = '-' then
            readMembers negated ((low, high) :: others) true (length + 1) rest
          else
            readMembers negated ((character, character) :: ranges) false (length + 1) rest

/-- The class that an opening bracket before the text begins, if it is closed. -/
def ofText? : List Char → Except GlobError (Option GlobClass)
  | '!' :: rest => readMembers true [] false 1 rest
  | '^' :: rest => readMembers true [] false 1 rest
  | text => readMembers false [] false 0 text

end GlobClass

namespace Glob

/-- A group of alternatives that is still open. -/
structure OpenGroup where
  before : List GlobPiece
  branches : List (List GlobPiece)
  deriving Repr

/--
A glob under construction: the parts of the current branch in reverse, the open
groups around it, and the character before the one to be read.
-/
structure Progress where
  current : List GlobPiece
  groups : List OpenGroup
  previous : Option Char
  deriving Repr

namespace Progress

/-- Add parts to the current branch. -/
def push (progress : Progress) (pieces : List GlobPiece) (previous : Char) : Progress :=
  { progress with current := pieces.reverse ++ progress.current, previous := some previous }

/-- Replace the last part of the current branch, which is the slash before `**`. -/
def replaceLast (progress : Progress) (piece : GlobPiece) (previous : Char) : Progress :=
  let kept :=
    match progress.current with
    | .leadingFolders :: rest => .leadingFolders :: rest
    | .insideFolder :: rest => .insideFolder :: rest
    | _ :: rest => piece :: rest
    | [] => [piece]
  { progress with current := kept, previous := some previous }

/-- Open a group of alternatives. -/
def openGroup (progress : Progress) : Progress :=
  ⟨[], ⟨progress.current, []⟩ :: progress.groups, some '\x7b'⟩

/-- The branches of a group after the current one, which is left out if it is void. -/
def branchesOf (progress : Progress) (group : OpenGroup) : List (List GlobPiece) :=
  if progress.current.all GlobPiece.isVoid then
    group.branches
  else
    progress.current.reverse :: group.branches

/-- Start the next alternative of the innermost group. -/
def nextBranch (progress : Progress) : Progress :=
  match progress.groups with
  | [] => progress.push [.byte 0x2C] ','
  | group :: groups =>
      ⟨[], { group with branches := progress.branchesOf group } :: groups, some ','⟩

/-- Close the innermost group of alternatives. -/
def closeGroup (progress : Progress) : Except GlobError Progress :=
  match progress.groups with
  | [] => .error .unopenedAlternatives
  | group :: groups =>
      .ok ⟨.alternatives (progress.branchesOf group).reverse :: group.before, groups,
        some '\x7d'⟩

/-- Whether the next character is a separator of the innermost group. -/
def endsBranch (progress : Progress) (next : Char) : Bool :=
  !progress.groups.isEmpty && (next == ',' || next == '\x7d')

/-- Whether a whole component may start here. -/
def startsComponent (progress : Progress) : Bool :=
  progress.previous == some '/' ||
    (!progress.groups.isEmpty &&
      (progress.previous == some ',' || progress.previous == some '\x7b'))

/-- The finished glob. -/
def finish (progress : Progress) : Except GlobError (List GlobPiece) :=
  match progress.groups with
  | [] => .ok progress.current.reverse
  | _ :: _ => .error .unclosedAlternatives

end Progress

mutual

/-- Read a glob from left to right. -/
def read (progress : Progress) : List Char → Except GlobError (List GlobPiece)
  | [] => progress.finish
  | '?' :: rest => read (progress.push [.anyByte] '?') rest
  | '*' :: '*' :: rest =>
      if progress.current.isEmpty then
        match rest with
        | [] => read (progress.push [.leadingFolders] '*') []
        | '/' :: rest => read (progress.push [.leadingFolders] '/') rest
        | rest => read (progress.push [.anyBytes, .anyBytes] '*') rest
      else if progress.startsComponent then
        match rest with
        | [] => read (progress.replaceLast .insideFolder '*') []
        | '/' :: rest => read (progress.replaceLast .innerFolders '/') rest
        | next :: rest =>
            if progress.endsBranch next then
              read (progress.replaceLast .insideFolder '*') (next :: rest)
            else
              read (progress.push [.anyBytes, .anyBytes] '*') (next :: rest)
      else
        read (progress.push [.anyBytes, .anyBytes] '*') rest
  | '*' :: rest => read (progress.push [.anyBytes] '*') rest
  | '[' :: rest => do
      match ← GlobClass.ofText? rest with
      | some members => readBehind (progress.push [members.piece] ']') members.length rest
      | none => read (progress.push [.byte 0x5B] '[') rest
  | '\x7b' :: rest => read progress.openGroup rest
  | '\x7d' :: rest => do read (← progress.closeGroup) rest
  | ',' :: rest => read progress.nextBranch rest
  | ['\\'] => .error .danglingEscape
  | '\\' :: character :: rest =>
      read (progress.push ((Utf8.encodeCharacter character).map .byte) character) rest
  | character :: rest =>
      read (progress.push ((Utf8.encodeCharacter character).map .byte) character) rest

/-- Read a glob behind some characters, at least one, that were read before. -/
def readBehind (progress : Progress) (length : Nat) : List Char → Except GlobError (List GlobPiece)
  | [] => progress.finish
  | _ :: rest =>
      if length ≤ 1 then
        read progress rest
      else
        readBehind progress (length - 1) rest

end

/-- The glob written in a text. -/
def ofText (text : List Char) : Except GlobError (List GlobPiece) :=
  read ⟨[], [], none⟩ text

/-- Whether a class holds a byte. -/
def classHolds (negated : Bool) (ranges : List (UInt8 × UInt8)) (byte : UInt8) : Bool :=
  (ranges.any fun (low, high) => low ≤ byte && byte ≤ high) != negated

mutual

/-- The suffixes of a path that a part of a glob leads from into a set. -/
def suffixesBeforePiece (path : List UInt8) (set : SuffixSet) : GlobPiece → SuffixSet
  | .byte value => .afterItem (· == value) path set
  | .anyByte => .afterItem (· != slash) path set
  | .anyBytes => .afterItems (· != slash) path set
  | .leadingFolders => set.union (.afterAny (· == slash) path set)
  | .insideFolder => .afterItem (· == slash) path (.afterItems (fun _ => true) path set)
  | .innerFolders =>
      .afterItem (· == slash) path (set.union (.afterAny (· == slash) path set))
  | .byteClass negated ranges => .afterItem (classHolds negated ranges) path set
  | .alternatives [] => set
  | .alternatives (branch :: branches) =>
      suffixesBeforeBranches path set (suffixesBefore path set branch) branches

/-- The suffixes that one of the branches leads from into a set, besides some others. -/
def suffixesBeforeBranches (path : List UInt8) (set others : SuffixSet) :
    List (List GlobPiece) → SuffixSet
  | [] => others
  | branch :: branches =>
      suffixesBeforeBranches path set (others.union (suffixesBefore path set branch)) branches

/-- The suffixes of a path that the parts of a glob lead from into a set. -/
def suffixesBefore (path : List UInt8) (set : SuffixSet) : List GlobPiece → SuffixSet
  | [] => set
  | piece :: pieces => suffixesBeforePiece path (suffixesBefore path set pieces) piece

end

/-- Whether the glob describes the whole path; a lone `**` describes every path. -/
def isMatch (glob : List GlobPiece) (path : List UInt8) : Bool :=
  match glob with
  | [.leadingFolders] => true
  | glob => (suffixesBefore path (.onlyEmpty path) glob).holdsWhole

end Glob

end MarkupLint
