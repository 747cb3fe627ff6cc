import MarkupLint.Files.FileTree
import MarkupLint.Files.Ignore.Rules

namespace MarkupLint

/-!
# Where ignore files lie

A directory has up to three ignore files: a general one, one of the version
control, and the local exclude file of its repository.  The last lies in the
`.git` directory.  A linked working copy has a file of that name instead, which
leads to the data of the copy, and these lead to the data it shares with others.
-/

/-- The kinds of ignore files, the strongest first. -/
inductive IgnoreKind where
  | general
  | versionControl
  | localExclude
  deriving Repr, DecidableEq

namespace IgnoreKind

/-- Every kind, the strongest first. -/
def all : List IgnoreKind :=
  [general, versionControl, localExclude]

end IgnoreKind

/-- What is wrong with an ignore file. -/
inductive IgnoreFault where
  | badRow (file : Path) (row : Nat) (error : IgnoreRowError)
  | unreadable (file : Path) (error : FileError)
  deriving Repr, DecidableEq

namespace IgnoreFault

/-- The description of a fault. -/
def message : IgnoreFault → String
  | badRow file row error =>
      file.toString ++ ": line " ++ toString row ++ ": " ++ error.message
  | unreadable file error => file.toString ++ ": " ++ error.message

end IgnoreFault

namespace Repository

/-- The name of the entry that marks a working copy. -/
def markName : FileName := ".git"

/-- What stands before the path in the file of a linked working copy. -/
def linkMark : List Char := "gitdir: ".toList

/-- The name of the file that leads from a linked working copy to the shared data. -/
def sharedName : FileName := "commondir"

/-- The path of the exclude file below the shared data. -/
def excludePath : Path := Path.ofString "info/exclude"

/-- The first row of a file; an empty file has none. -/
def firstRow (file : Path) (bytes : List UInt8) : Except IgnoreFault (Option (List Char)) :=
  match bytes, (IgnoreFile.rowBytes bytes).head? with
  | _ :: _, some row =>
      match Utf8.decode? row with
      | some text => .ok (some text)
      | none => .error (.unreadable file .notText)
  | _, _ => .ok none

/-- The shared data of the working copy with the given data; a leading dot is relative to it. -/
def sharedPath (data : Path) (row : List Char) : Path :=
  if row.head? = some '.' then data.join (Path.ofText row) else Path.ofText row

/-- The file that leads from the data of a linked working copy to the shared data. -/
def sharedLink (data : Path) : Path :=
  data.below [sharedName]

/-- The shared data that the data of a linked working copy lead to. -/
def sharedData (files : FileSystem) (data : Path) : Except IgnoreFault (Option Path) :=
  let link := sharedLink data
  match files.readBytes link with
  | .error .isADirectory => .error (.unreadable link .isADirectory)
  | .error _ => .ok none
  | .ok bytes => do
      return (← firstRow link bytes).map (sharedPath data)

/-- The entry that marks a directory as a working copy. -/
def markOf (directory : Path) : Path :=
  directory.below [markName]

/-- The data that the file of a linked working copy leads to. -/
def linkedData (mark : Path) (bytes : List UInt8) : Except IgnoreFault (Option Path) := do
  return ((← firstRow mark bytes).bind (afterStart? linkMark)).map Path.ofText

/-- The data that hold the exclude file of a directory, if it is known where they lie. -/
def dataOf (files : FileSystem) (directory : Path) : Except IgnoreFault (Option Path) :=
  let mark := markOf directory
  match files.readBytes mark with
  | .error .permissionDenied => .error (.unreadable mark .permissionDenied)
  | .error _ => .ok (some mark)
  | .ok bytes => do
      match ← linkedData mark bytes with
      | none => return none
      | some data => sharedData files data

end Repository

namespace IgnoreKind

/-- Where the ignore file of a kind lies, if it is known. -/
def path? (files : FileSystem) (directory : Path) :
    IgnoreKind → Except IgnoreFault (Option Path)
  | general => .ok (some (directory.join (Path.ofString ".ignore")))
  | versionControl => .ok (some (directory.join (Path.ofString ".gitignore")))
  | localExclude => do
      return (← Repository.dataOf files directory).map (·.join Repository.excludePath)

/-- The rules of a kind in a directory; a file that cannot be read has none. -/
def rules (files : FileSystem) (directory : Path) (kind : IgnoreKind) : IgnoreRules :=
  match kind.path? files directory with
  | .ok (some path) => IgnoreFile.rules ((files.readBytes path).toOption.getD [])
  | _ => []

/-- The faults in the ignore file of a kind in a directory. -/
def faults (files : FileSystem) (directory : Path) (kind : IgnoreKind) : List IgnoreFault :=
  match kind.path? files directory with
  | .error fault => [fault]
  | .ok none => []
  | .ok (some path) =>
      (IgnoreFile.errors ((files.readBytes path).toOption.getD [])).map fun (row, error) =>
        .badRow path row error

end IgnoreKind

end MarkupLint
