import MarkupLint.Files.Path
import MarkupLint.Text.Utf8

namespace MarkupLint

/-!
# File trees

A file tree is a snapshot of a file system.  Everything the analyzer and the
command line learn about files, they learn from such a snapshot and a working
directory, so their answers are functions of the two.
-/

/-- Why a path does not lead to the file that was asked for. -/
inductive FileError where
  | notFound
  | notADirectory
  | isADirectory
  | nameTooLong
  | containsNull
  | notText
  | permissionDenied
  deriving Repr, DecidableEq

namespace FileError

/-- The description of an error as the system words it. -/
def message : FileError → String
  | notFound => "No such file or directory (os error 2)"
  | notADirectory => "Not a directory (os error 20)"
  | isADirectory => "Is a directory (os error 21)"
  | nameTooLong => "File name too long (os error 36)"
  | containsNull => "file name contained an unexpected NUL byte"
  | notText => "stream did not contain valid UTF-8"
  | permissionDenied => "Permission denied (os error 13)"

end FileError

/-- A file with its bytes, unless access to it is denied, or a directory with its entries. -/
inductive FileTree where
  | file (contents : Option (List UInt8))
  | directory (entries : List (FileName × FileTree))
  deriving Repr

namespace FileTree

/-- Whether the tree is a directory. -/
def isDirectory : FileTree → Bool
  | directory _ => true
  | file _ => false

/-- The entry of a directory with the given name. -/
def entry? (name : FileName) : FileTree → Option FileTree
  | directory entries => (entries.find? (·.1 == name)).map (·.2)
  | file _ => none

/-- Replace the entry with a name, or add it at the end. -/
def putEntry (name : FileName) (tree : FileTree) :
    List (FileName × FileTree) → List (FileName × FileTree)
  | [] => [(name, tree)]
  | (other, old) :: entries =>
      if other == name then
        (name, tree) :: entries
      else
        (other, old) :: putEntry name tree entries

/-- The entry of a directory with the given name, or an empty directory. -/
def entryOrEmpty (name : FileName) (tree : FileTree) : FileTree :=
  (tree.entry? name).getD (directory [])

/-- The entries of a directory; a file has none. -/
def entries : FileTree → List (FileName × FileTree)
  | directory entries => entries
  | file _ => []

/-- Put a tree at a path of names, with directories on the way as needed. -/
def insert (tree : FileTree) (names : List FileName) (new : FileTree) : FileTree :=
  match names with
  | [] => new
  | name :: names =>
      directory (putEntry name ((tree.entryOrEmpty name).insert names new) tree.entries)

/-- Make sure that there is a directory at a path of names. -/
def insertDirectory (tree : FileTree) (names : List FileName) : FileTree :=
  match names with
  | [] => directory tree.entries
  | name :: names =>
      directory (putEntry name ((tree.entryOrEmpty name).insertDirectory names) tree.entries)

end FileTree

/-- A tree and the directories that lead to it, the nearest first. -/
structure Place where
  tree : FileTree
  above : List (FileName × FileTree)
  deriving Repr

namespace Place

/-- The names that lead from the root to the place. -/
def names (place : Place) : List FileName :=
  (place.above.map (·.1)).reverse

/-- The greatest number of bytes in the name of an entry. -/
def longestName : Nat := 255

/-- Follow one piece of a path. -/
def follow (place : Place) (piece : FileName) : Except FileError Place :=
  if !place.tree.isDirectory then
    .error .notADirectory
  else if piece.isIdle then
    .ok place
  else if piece.isParent then
    match place.above with
    | [] => .ok place
    | (_, tree) :: above => .ok ⟨tree, above⟩
  else if longestName < piece.bytes.length then
    .error .nameTooLong
  else
    match place.tree.entry? piece with
    | none => .error .notFound
    | some tree => .ok ⟨tree, (piece, place.tree) :: place.above⟩

/-- The names that lead to each directory above the place, from the root down. -/
def ancestors (place : Place) : List (List FileName) :=
  (List.range place.names.length).map fun depth => place.names.take depth

end Place

/--
A snapshot of the files together with a working directory, unless that has been
removed, and the bytes of the user's own ignore file, if there is one.
-/
structure FileSystem where
  root : FileTree
  workingDirectory : Option Path
  userIgnore : List UInt8 := []
  deriving Repr

namespace FileSystem

/-- The greatest number of bytes in a path. -/
def longestPath : Nat := 4095

/-- The place that a path leads to. -/
def find (files : FileSystem) (path : Path) : Except FileError Place :=
  if path.bytes.isEmpty then
    .error .notFound
  else if path.bytes.contains 0 then
    .error .containsNull
  else if longestPath < path.bytes.length then
    .error .nameTooLong
  else
    match path.from? files.workingDirectory with
    | none => .error .notFound
    | some path => path.pieces.foldlM Place.follow ⟨files.root, []⟩

/-- Whether a path leads to a file. -/
def isFile (files : FileSystem) (path : Path) : Bool :=
  match files.find path with
  | .ok place => !place.tree.isDirectory
  | .error _ => false

/-- Whether a path leads anywhere. -/
def exists? (files : FileSystem) (path : Path) : Bool :=
  match files.find path with
  | .ok _ => true
  | .error _ => false

/-- The bytes of a file. -/
def readBytes (files : FileSystem) (path : Path) : Except FileError (List UInt8) := do
  let place ← files.find path
  match place.tree with
  | .directory _ => .error .isADirectory
  | .file none => .error .permissionDenied
  | .file (some bytes) => .ok bytes

/-- The text of a file, which has to be valid UTF-8. -/
def readText (files : FileSystem) (path : Path) : Except FileError (List Char) := do
  let bytes ← files.readBytes path
  match Utf8.decode? bytes with
  | some text => .ok text
  | none => .error .notText

/-- Write the file with a name in the working directory, which replaces a file already there. -/
def writeText (files : FileSystem) (name : FileName) (text : List Char) :
    Except FileError FileSystem := do
  let place ← files.find (Path.ofString ".")
  match place.tree.entry? name with
  | some (.directory _) => .error .isADirectory
  | some (.file none) => .error .permissionDenied
  | _ =>
      return { files with
        root := files.root.insert (place.names ++ [name]) (.file (some (Utf8.encode text))) }

end FileSystem

end MarkupLint
