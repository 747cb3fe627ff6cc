import MarkupLint.Config.File

namespace MarkupLint

/-!
# Where the configuration comes from

A configuration named on the command line is taken as it is.  Otherwise a file in
the directory that is checked comes before the one of the user, and without
either the defaults hold.
-/

/-- The place of the configuration of a run. -/
inductive ConfigSource where
  | explicit (path : Path)
  | project (path : Path)
  | global (path : Path)
  | builtIn
  deriving Repr, DecidableEq

namespace ConfigSource

/-- The names of configuration files in a project, the preferred one first. -/
def projectNames : List FileName :=
  ["rst-lint.toml", ".rst-lint.toml"]

/-- The name of the configuration file of the user. -/
def globalName : FileName := "config.toml"

/-- The file of a source. -/
def path? : ConfigSource → Option Path
  | explicit path => some path
  | project path => some path
  | global path => some path
  | builtIn => none

/-- What a source is called in log records. -/
def description : ConfigSource → String
  | explicit path => "config " ++ path.toString
  | project path => "project config " ++ path.toString
  | global path => "global config " ++ path.toString
  | builtIn => "default config"

/-- The directory of the project that a target belongs to: a file belongs to its folder. -/
def projectDirectory (files : FileSystem) (target : Path) : Path :=
  if files.isFile target then
    if target.folder.bytes.isEmpty then Path.ofString "." else target.folder
  else
    target

/-- The configuration file of a project, if it has one. -/
def findProject? (files : FileSystem) (target : Path) : Option ConfigSource :=
  let directory := projectDirectory files target
  let candidates := projectNames.map fun name => directory.below [name]
  (candidates.find? files.isFile).map project

/-- The configuration file of the user, if there is one. -/
def findGlobal? (files : FileSystem) (directory : Option Path) : Option ConfigSource :=
  let candidate := directory.map fun directory => directory.below [globalName]
  (candidate.filter files.isFile).map global

/-- The source of the configuration for a target. -/
def resolve (files : FileSystem) (target : Path) (named : Option Path)
    (globalDirectory : Option Path) : ConfigSource :=
  match named with
  | some path => explicit path
  | none => ((findProject? files target).or (findGlobal? files globalDirectory)).getD builtIn

/-- The configuration of a source. -/
def load (files : FileSystem) (source : ConfigSource) : Except ConfigError Config :=
  match source.path? with
  | none => .ok {}
  | some path => Config.load files path

end ConfigSource

end MarkupLint
