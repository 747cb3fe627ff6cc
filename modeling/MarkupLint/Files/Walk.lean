import MarkupLint.Files.Ignore.Location

namespace MarkupLint

/-!
# Walking a directory

A walk finds the files below a root.  Ignore files of three kinds are honoured
in every directory of the walk and in all directories above the root; of each
kind the nearest file that decides about a path wins, and a general ignore file
wins over those of the version control.  The user's own ignore file comes last and
speaks of paths below the working directory.  An ignored directory is not entered.
Hidden entries are passed over unless a rule keeps them, and the root itself is
never subject to any rule.
-/

/--
The ignore rules of a directory, kind by kind, and the names that lead from it to
the directory where the walk is.
-/
structure IgnoreLayer where
  general : IgnoreRules
  versionControl : IgnoreRules
  localExclude : IgnoreRules
  below : List FileName
  deriving Repr

namespace IgnoreLayer

/-- The rules of one kind. -/
def rules (layer : IgnoreLayer) : IgnoreKind → IgnoreRules
  | .general => layer.general
  | .versionControl => layer.versionControl
  | .localExclude => layer.localExclude

/-- The rules of a directory; those of the version control only on demand. -/
def ofDirectory (files : FileSystem) (respectGitignore : Bool) (directory : Path)
    (below : List FileName) : IgnoreLayer where
  general := IgnoreKind.general.rules files directory
  versionControl :=
    if respectGitignore then IgnoreKind.versionControl.rules files directory else []
  localExclude := IgnoreKind.localExclude.rules files directory
  below := below

/-- Whether a layer has no rules at all. -/
def isEmpty (layer : IgnoreLayer) : Bool :=
  layer.general.isEmpty && layer.versionControl.isEmpty && layer.localExclude.isEmpty

/-- The layer as seen from a directory one level further down. -/
def descend (layer : IgnoreLayer) (name : FileName) : IgnoreLayer :=
  { layer with below := layer.below ++ [name] }

/-- What the files of one kind say about an entry of the current directory. -/
def verdict (kind : IgnoreKind) (name : FileName) (isDirectory : Bool) :
    List IgnoreLayer → IgnoreVerdict
  | [] => .undecided
  | layer :: layers =>
      let path := (Path.ofNames (layer.below ++ [name])).bytes
      ((layer.rules kind).verdict path isDirectory).orElse (verdict kind name isDirectory layers)

end IgnoreLayer

/-- What all layers, nearest first, say about an entry of the current directory. -/
def ignoreVerdict (layers : List IgnoreLayer) (name : FileName) (isDirectory : Bool) :
    IgnoreVerdict :=
  IgnoreKind.all.foldr
    (fun kind weaker => (IgnoreLayer.verdict kind name isDirectory layers).orElse weaker)
    .undecided

/-- A file with the names that lead to it from the root of a walk, and its bytes if allowed. -/
structure WalkedFile where
  names : List FileName
  contents : Option (List UInt8)
  deriving Repr, DecidableEq

/-- The bytes of a file; one to which access is denied shows none. -/
def WalkedFile.bytes (file : WalkedFile) : List UInt8 :=
  file.contents.getD []

/-- What a walk goes through, where it starts, and whether it heeds the version control. -/
structure Walk where
  files : FileSystem
  root : Path
  respectGitignore : Bool
  deriving Repr

namespace Walk

/-- The layers in the directory that names lead to from the root; empty ones are left out. -/
def layersIn (walk : Walk) (names : List FileName) (layers : List IgnoreLayer) :
    List IgnoreLayer :=
  let layer :=
    IgnoreLayer.ofDirectory walk.files walk.respectGitignore (walk.root.below names) []
  if layer.isEmpty then layers else layer :: layers

/-- A path as the user's own rules see it: without the working directory in front of it. -/
def userPath (walk : Walk) (path : Path) : List UInt8 :=
  match walk.files.workingDirectory with
  | none => path.bytes
  | some directory =>
      if directory.bytes.isPrefixOf path.bytes then
        let rest := path.bytes.drop directory.bytes.length
        if rest.head? = some Path.slash then rest.drop 1 else rest
      else
        path.bytes

/-- What the user's own rules say about a path. -/
def userVerdict (walk : Walk) (path : Path) (isDirectory : Bool) : IgnoreVerdict :=
  (IgnoreFile.rules walk.files.userIgnore).verdict (walk.userPath path) isDirectory

/-- Whether the walk passes over an entry of the directory that names lead to. -/
def passesOver (walk : Walk) (layers : List IgnoreLayer) (names : List FileName)
    (name : FileName) (isDirectory : Bool) : Bool :=
  let ofUser := walk.userVerdict (walk.root.below (names ++ [name])) isDirectory
  match (ignoreVerdict layers name isDirectory).orElse ofUser with
  | .ignored => true
  | .kept => false
  | .undecided => name.isHidden

mutual

/-- The files of a tree whose place below the root is given by names. -/
def filesIn (walk : Walk) (layers : List IgnoreLayer) (names : List FileName) :
    FileTree → List WalkedFile
  | .file contents => [⟨names, contents⟩]
  | .directory entries => filesOf walk (walk.layersIn names layers) names entries

/-- The files of the entries of a directory. -/
def filesOf (walk : Walk) (layers : List IgnoreLayer) (names : List FileName) :
    List (FileName × FileTree) → List WalkedFile
  | [] => []
  | (name, tree) :: entries =>
      let found :=
        if walk.passesOver layers names name tree.isDirectory then
          []
        else
          filesIn walk (layers.map (·.descend name)) (names ++ [name]) tree
      found ++ filesOf walk layers names entries

end

/-- The path of the directory that names lead to from the root of the file system. -/
def directoryAt (names : List FileName) : Path :=
  (Path.ofString "/").below names

/-- The rules of the directories above a place, nearest first. -/
def layersAbove (walk : Walk) (place : Place) : List IgnoreLayer :=
  let layers := place.ancestors.reverse.map fun names =>
    IgnoreLayer.ofDirectory walk.files walk.respectGitignore (directoryAt names)
      (place.names.drop names.length)
  layers.filter (!·.isEmpty)

/-- The faults in the ignore files of the directories above a place, from the root down. -/
def faultsAbove (walk : Walk) (place : Place) : List IgnoreFault :=
  place.ancestors.flatMap fun names =>
    IgnoreKind.all.flatMap fun kind =>
      if kind = .versionControl ∧ !walk.respectGitignore then
        []
      else
        kind.faults walk.files (directoryAt names)

end Walk

/-- Why a walk fails. -/
inductive WalkError where
  | unreachable (root : Path) (error : FileError)
  | badIgnoreFiles (faults : List IgnoreFault)
  deriving Repr, DecidableEq

namespace WalkError

/-- The description of an error. -/
def message : WalkError → String
  | unreachable root error =>
      root.toString ++ ": IO error for operation on " ++ root.toString ++ ": " ++ error.message
  | badIgnoreFiles faults => "\n".intercalate (faults.map IgnoreFault.message)

end WalkError

namespace FileSystem

/--
All files below a root, or the root itself when it is a file.  A faulty ignore
file above a directory stops the walk; one inside it does not.
-/
def walk (files : FileSystem) (root : Path) (respectGitignore : Bool) :
    Except WalkError (List WalkedFile) :=
  match files.find root with
  | .error error => .error (.unreachable root error)
  | .ok place =>
      let walk : Walk := ⟨files, root, respectGitignore⟩
      let faults := if place.tree.isDirectory then walk.faultsAbove place else []
      if faults.isEmpty then
        .ok (walk.filesIn (walk.layersAbove place) [] place.tree)
      else
        .error (.badIgnoreFiles faults)

end FileSystem

end MarkupLint
