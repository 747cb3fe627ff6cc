import MarkupLint.CommandLine.Run

namespace MarkupLint

/-!
# The program

The outer layer takes a snapshot of the files that a run may look at, runs the
program on the snapshot, and carries out what the outcome says.
-/

namespace Snapshot

/-- The names that lead to a path from the root, with the steps upwards taken. -/
def namesTo (workingDirectory path : Path) : List FileName :=
  let step := fun (reversed : List FileName) name =>
    if name.isParent then reversed.drop 1 else name :: reversed
  ((workingDirectory.join path).names.foldl step []).reverse

/-- Whether the walk may read the file with a given name. -/
def isRead (name : FileName) : Bool :=
  name ∈ ([".ignore", ".gitignore", Repository.markName] : List FileName) ||
    name.extension? == some Analyzer.documentExtension

/-- The bytes of a file, unless access to it is denied. -/
def readContents (location : String) : IO (Option (List UInt8)) := do
  try
    return some (← IO.FS.readBinFile location).toList
  catch _ =>
    return none

/-- The tree of a directory; links are left out. -/
partial def directoryTree (path : String) : IO FileTree := do
  let location := (← IO.currentDir) / path
  let mut entries : List (FileName × FileTree) := []
  for entry in ← location.readDir do
    match (← entry.path.symlinkMetadata).type with
    | .dir => entries := (entry.fileName, ← directoryTree entry.path.toString) :: entries
    | .file =>
        let contents ←
          if isRead entry.fileName then readContents entry.path.toString else pure (some [])
        entries := (entry.fileName, .file contents) :: entries
    | _ => pure ()
  return .directory entries

/-- Add what lies at a path, of a directory everything below it only on demand. -/
def add (workingDirectory : Path) (isDeep : Bool) (tree : FileTree) (path : Path) :
    IO FileTree := do
  let names := namesTo workingDirectory path
  let location := (← IO.currentDir) / path.toString
  if !(← location.pathExists) then
    return tree
  if !(← location.isDir) then
    return tree.insert names (.file (← readContents location.toString))
  if isDeep then
    return tree.insert names (← directoryTree path.toString)
  return tree.insertDirectory names

/-- Add the exclude file of a directory, with the files that lead to it. -/
def addExclude (workingDirectory : Path) (tree : FileTree) (directory : Path) : IO FileTree := do
  let mark := Repository.markOf directory
  let marked ← add workingDirectory false tree mark
  let data :=
    match (FileSystem.mk marked (some workingDirectory) []).readBytes mark with
    | .ok bytes => (Repository.linkedData mark bytes).toOption.join
    | .error _ => none
  let linked ←
    match data with
    | some data => add workingDirectory false marked (Repository.sharedLink data)
    | none => pure marked
  match IgnoreKind.localExclude.path? ⟨linked, some workingDirectory, []⟩ directory with
  | .ok (some exclude) => add workingDirectory false linked exclude
  | _ => return linked

/-- Add the ignore files of a directory. -/
def addIgnoreFiles (workingDirectory : Path) (tree : FileTree) (directory : Path) :
    IO FileTree := do
  let names : List FileName := [".ignore", ".gitignore"]
  let added ← names.foldlM (fun tree name =>
    add workingDirectory false tree (directory.below [name])) tree
  addExclude workingDirectory added directory

/-- The directories above a path. -/
def directoriesAbove (workingDirectory path : Path) : List Path :=
  let names := namesTo workingDirectory path
  (List.range names.length).map fun depth => Walk.directoryAt (names.take depth)

mutual

/-- The directories of a tree that lies at a path. -/
def directoriesIn (path : Path) : FileTree → List Path
  | .file _ => []
  | .directory entries => path :: directoriesOf path entries

/-- The directories among the entries of a directory at a path. -/
def directoriesOf (path : Path) : List (FileName × FileTree) → List Path
  | [] => []
  | (name, tree) :: entries =>
      directoriesIn (path.below [name]) tree ++ directoriesOf path entries

end

/-- The directories of a file system at a path and below it. -/
def directoriesAt (files : FileSystem) (path : Path) : List Path :=
  match files.find path with
  | .ok place => directoriesIn path place.tree
  | .error _ => []

/-- The configuration files that a check of a path may use. -/
def configFiles (path : Path) (config : Option String) (environment : Environment) : List Path :=
  let directories := [path, path.folder, Path.ofString "."]
  let ofProject := directories.flatMap fun directory =>
    ConfigSource.projectNames.map fun name => directory.below [name]
  let ofUser := environment.globalDirectory?.map fun directory =>
    directory.below [ConfigSource.globalName]
  ofProject ++ ofUser.toList ++ (config.map Path.ofString).toList

/-- The user's own ignore file at the place where it is looked for by default. -/
def readUserIgnore : IO (List UInt8) := do
  let configured := (← IO.getEnv "XDG_CONFIG_HOME").filter (!·.isEmpty)
  let ofHome := (← IO.getEnv "HOME").map (· ++ "/.config")
  match configured.or ofHome with
  | none => return []
  | some directory => return (← readContents (directory ++ "/git/ignore")).getD []

/-- The files that a run may look at. -/
def take (arguments : List String) (environment : Environment) : IO FileSystem := do
  let workingDirectory := Path.ofString (← IO.currentDir).toString
  let start := (FileTree.directory []).insertDirectory (namesTo workingDirectory workingDirectory)
  let tree ←
    match readCommandLine environment.config arguments with
    | .ok ⟨_, config, .check options⟩ => do
        let path := Path.ofString options.path
        let deep ← add workingDirectory true start path
        let above ← (directoriesAbove workingDirectory path).foldlM
          (addIgnoreFiles workingDirectory) deep
        let below ← (directoriesAt ⟨above, some workingDirectory, []⟩ path).foldlM
          (addExclude workingDirectory) above
        (configFiles path config environment).foldlM (add workingDirectory false) below
    | .ok ⟨_, _, .init _⟩ =>
        add workingDirectory false start (Path.ofString ConfigTemplate.fileName)
    | _ => pure start
  return ⟨tree, some workingDirectory, ← readUserIgnore⟩

/-- Write the configuration file if a run has changed it. -/
def store (before after : FileSystem) : IO Unit := do
  let path := Path.ofString ConfigTemplate.fileName
  if (before.readText path).toOption != (after.readText path).toOption then
    if let .ok text := after.readText path then
      IO.FS.writeFile path.toString (String.ofList text)

end Snapshot

/-- The environment of the program. -/
def readEnvironment : IO Environment := do
  return {
    config := ← IO.getEnv "RST_LINT_CONFIG"
    configDirectory := ← IO.getEnv "RST_LINT_CONFIG_DIR"
    home := ← IO.getEnv "HOME"
    logFilter := ← IO.getEnv "RUST_LOG" }

/-- Run the program on the files of the system. -/
def runOnSystem (arguments : List String) : IO UInt32 := do
  let environment ← readEnvironment
  let files ← Snapshot.take arguments environment
  let outcome := runProgram arguments environment files
  for record in outcome.log do
    IO.eprintln record.row
  if let some error := outcome.error then
    IO.eprintln error
  Snapshot.store files outcome.files
  IO.print outcome.output
  return UInt32.ofNat outcome.exitCode

end MarkupLint

/-- The entry point of the program. -/
def main (arguments : List String) : IO UInt32 :=
  MarkupLint.runOnSystem arguments
