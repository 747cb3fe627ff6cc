import MarkupLint.CommandLine.Run

namespace MarkupLint

/-!
# The first configuration that is present decides

The source of a configuration is found by trying a few places in turn.  This module
names the places and says which of them is the first one where something is: a
configuration named on the command line counts as present whatever it leads to, all
others only as files.  Two lookups that agree on that first place and on what can be
read there come to the same configuration, or fail in the same way.  Whatever lies
at the later places has no influence.

The file of the user can have different paths in two environments.  Then the sources
differ, and so do errors that name the file, but nothing else does.
-/

namespace FileSystem

/-- A file can be read, unless access to it is denied. -/
theorem readBytes_of_isFile
    {files : FileSystem}
    {path : Path}
    (isFile : files.isFile path = true) :
    (∃ bytes, files.readBytes path = .ok bytes) ∨
      files.readBytes path = .error .permissionDenied := by
  unfold FileSystem.isFile at isFile
  cases found : files.find path with
  | error error =>
      simp [found] at isFile
  | ok place =>
      cases tree : place.tree with
      | directory entries =>
          simp [found, tree, FileTree.isDirectory] at isFile
      | file contents =>
          cases contents <;>
            simp [readBytes, found, tree, bind, Except.bind]

/-- Reading the text of a file fails only if access is denied or its bytes are no text. -/
theorem error_of_readText_of_isFile
    {files : FileSystem}
    {path : Path}
    {error : FileError}
    (isFile : files.isFile path = true)
    (fails : files.readText path = .error error) :
    error = .notText ∨ error = .permissionDenied := by
  rcases readBytes_of_isFile isFile with ⟨bytes, isRead⟩ | isDenied
  · cases decoded : Utf8.decode? bytes with
    | none =>
        simp [readText, isRead, decoded, bind, Except.bind] at fails
        exact .inl fails.symm
    | some text =>
        simp [readText, isRead, decoded, bind, Except.bind] at fails
  · simp [readText, isDenied, bind, Except.bind] at fails
    exact .inr fails.symm

end FileSystem

/-- What is wrong with a configuration, whichever file it is in. -/
inductive ConfigFault where
  | unreadable (error : FileError)
  | malformed (text : List Char)
  deriving Repr, DecidableEq

/-- An error without the path of the file. -/
def ConfigError.fault : ConfigError → ConfigFault
  | .unreadable _ error => .unreadable error
  | .malformed text => .malformed text

namespace Config

/-- A configuration cannot be read exactly if its text cannot. -/
theorem load_eq_unreadable_iff
    {files : FileSystem}
    {path named : Path}
    {error : FileError} :
    load files path = .error (.unreadable named error) ↔
      named = path ∧ files.readText path = .error error := by
  unfold load
  cases files.readText path with
  | error actual =>
      simp [eq_comm]
  | ok text =>
      simp only [parse]
      cases parse? text <;>
        simp

section

variable
  {files otherFiles : FileSystem}
  {path otherPath : Path}

/-- The same bytes are the same configuration or have the same fault, wherever they are. -/
theorem load_fault_eq_of_readBytes_eq
    (sameBytes : otherFiles.readBytes otherPath = files.readBytes path) :
    (load otherFiles otherPath).mapError ConfigError.fault =
      (load files path).mapError ConfigError.fault := by
  have sameText : otherFiles.readText otherPath = files.readText path := by
    simp only [FileSystem.readText, sameBytes]
  simp only [load, sameText]
  cases files.readText path <;>
    rfl

theorem load_eq_of_readBytes_eq
    (sameBytes : otherFiles.readBytes path = files.readBytes path) :
    load otherFiles path = load files path := by
  simp only [load, FileSystem.readText, sameBytes]

end

end Config

/-- The kinds of sources. -/
inductive SourceKind where
  | explicit
  | project
  | global
  | builtIn
  deriving Repr, DecidableEq

/-- The kind of a source. -/
def ConfigSource.kind : ConfigSource → SourceKind
  | .explicit _ => .explicit
  | .project _ => .project
  | .global _ => .global
  | .builtIn => .builtIn

/-- What a configuration is looked up in. -/
structure ConfigLookup where
  files : FileSystem
  environment : Environment
  target : Path
  named : Option Path

namespace ConfigLookup

/-- A place where a configuration can be. -/
inductive Candidate where
  | named
  | project (name : String)
  | global
  deriving Repr, DecidableEq

/-- The places in the order in which they are tried. -/
def candidates : List Candidate :=
  [.named, .project "rst-lint.toml", .project ".rst-lint.toml", .global]

/-- The source that a file at a place is. -/
def Candidate.source : Candidate → Path → ConfigSource
  | .named => .explicit
  | .project _ => .project
  | .global => .global

/-- The file of the user: in a folder of its own, or in one at home. -/
def globalPath?
    (environment : Environment) :
    Option Path :=
  match environment.configDirectory, environment.home with
  | some directory, _ => some ((Path.ofString directory).join "config.toml")
  | none, some home => some (((Path.ofString home).join ".rst-lint").join "config.toml")
  | none, none => none

/-- The file that a place stands for, if it stands for one. -/
def path?
    (lookup : ConfigLookup) :
    Candidate →
      Option Path
  | .named => lookup.named
  | .project name =>
      some ((ConfigSource.projectDirectory lookup.files lookup.target).join (.ofString name))
  | .global => globalPath? lookup.environment

/-- Whether there is something at a place; only a named configuration need not be a file. -/
def isPresent
    (lookup : ConfigLookup)
    (candidate : Candidate) :
    Bool :=
  match lookup.path? candidate with
  | none => false
  | some path => candidate = .named || lookup.files.isFile path

/-- The first place where there is something. -/
def firstPresent?
    (lookup : ConfigLookup) :
    Option Candidate :=
  candidates.find? lookup.isPresent

/-- The file at the first place where there is something. -/
def firstPath?
    (lookup : ConfigLookup) :
    Option Path :=
  lookup.firstPresent?.bind lookup.path?

/-- The source of the configuration. -/
def resolve
    (lookup : ConfigLookup) :
    ConfigSource :=
  .resolve lookup.files lookup.target lookup.named lookup.environment.globalDirectory?

/-- The configuration, or why there is none. -/
def load
    (lookup : ConfigLookup) :
    Except ConfigError Config :=
  lookup.resolve.load lookup.files

theorem map_globalDirectory?
    (environment : Environment) :
    (environment.globalDirectory?.map fun directory =>
        directory.below [ConfigSource.globalName]) =
      globalPath? environment := by
  unfold Environment.globalDirectory? globalPath?
  cases environment.configDirectory <;>
    cases environment.home <;>
      rfl

/-- The configuration of a project is in one of two files of its folder. -/
theorem findProject?_eq
    (lookup : ConfigLookup) :
    ConfigSource.findProject? lookup.files lookup.target =
      if lookup.isPresent (.project "rst-lint.toml") then
        (lookup.path? (.project "rst-lint.toml")).map .project
      else if lookup.isPresent (.project ".rst-lint.toml") then
        (lookup.path? (.project ".rst-lint.toml")).map .project
      else
        none := by
  have isFirst :
      lookup.isPresent (.project "rst-lint.toml") =
        lookup.files.isFile
          ((ConfigSource.projectDirectory lookup.files lookup.target).below ["rst-lint.toml"]) :=
    rfl
  have isSecond :
      lookup.isPresent (.project ".rst-lint.toml") =
        lookup.files.isFile
          ((ConfigSource.projectDirectory lookup.files lookup.target).below [".rst-lint.toml"]) :=
    rfl
  simp only [ConfigSource.findProject?, ConfigSource.projectNames, List.map_cons, List.map_nil,
    List.find?_cons, List.find?_nil, ← isFirst, ← isSecond]
  cases lookup.isPresent (.project "rst-lint.toml") <;>
    cases lookup.isPresent (.project ".rst-lint.toml") <;>
      rfl

/-- The configuration of the user is there if there is a file at its place. -/
theorem findGlobal?_eq
    (lookup : ConfigLookup) :
    ConfigSource.findGlobal? lookup.files lookup.environment.globalDirectory? =
      if lookup.isPresent .global then (lookup.path? .global).map .global else none := by
  cases isGlobal : globalPath? lookup.environment with
  | none =>
      simp [ConfigSource.findGlobal?, map_globalDirectory?, isPresent, path?, isGlobal]
  | some path =>
      cases isFile : lookup.files.isFile path <;>
        simp [ConfigSource.findGlobal?, map_globalDirectory?, isPresent, path?, isGlobal, isFile,
          Option.filter_some]

/-- The source is that of the file at the first place where there is something. -/
theorem resolve_eq
    (lookup : ConfigLookup) :
    lookup.resolve =
      (lookup.firstPresent?.bind fun candidate =>
        (lookup.path? candidate).map candidate.source).getD .builtIn := by
  cases isNamed : lookup.named with
  | some path =>
      simp [resolve, ConfigSource.resolve, firstPresent?, candidates, isPresent, path?,
        Candidate.source, isNamed]
  | none =>
      have notNamed : lookup.isPresent .named = false := by
        simp [isPresent, path?, isNamed]
      simp only [resolve, ConfigSource.resolve, isNamed, findProject?_eq, findGlobal?_eq,
        firstPresent?, candidates, List.find?_cons, List.find?_nil, notNamed]
      cases lookup.isPresent (.project "rst-lint.toml") <;>
        cases lookup.isPresent (.project ".rst-lint.toml") <;>
          cases lookup.isPresent .global <;>
            rfl

/--
What a lookup comes to: nothing is present and the defaults hold, or the first place
where there is something gives the source, and only a named one need not be a file.
-/
theorem resolve_cases
    (lookup : ConfigLookup) :
    lookup.firstPresent? = none ∧ lookup.resolve = .builtIn ∧ lookup.load = .ok {} ∨
      ∃ candidate path,
        lookup.firstPresent? = some candidate ∧
          lookup.path? candidate = some path ∧
          lookup.resolve = candidate.source path ∧
          lookup.load = Config.load lookup.files path ∧
          (candidate = .named ∨ lookup.files.isFile path = true) := by
  have resolved := lookup.resolve_eq
  cases first : lookup.firstPresent? with
  | none =>
      rw [first] at resolved
      refine .inl ⟨rfl, resolved, ?_⟩
      rw [load, resolved]
      rfl
  | some candidate =>
      rw [first] at resolved
      have present : lookup.isPresent candidate = true := List.find?_some first
      cases isPath : lookup.path? candidate with
      | none =>
          simp [isPresent, isPath] at present
      | some path =>
          have isSource : lookup.resolve = candidate.source path := by
            simpa only [Option.bind_some, isPath, Option.map_some, Option.getD_some] using resolved
          refine .inr ⟨candidate, path, rfl, isPath, isSource, ?_, ?_⟩
          · rw [load, isSource]
            cases candidate <;>
              rfl
          · simpa [isPresent, isPath] using present

/-- The configuration of a project and that of the user are files. -/
theorem isFile_of_resolve
    {lookup : ConfigLookup}
    {path : Path}
    (resolved : lookup.resolve = .project path ∨ lookup.resolve = .global path) :
    lookup.files.isFile path = true := by
  obtain ⟨-, isBuiltIn, -⟩ | ⟨candidate, file, -, -, isSource, -, isFile⟩ := lookup.resolve_cases
  · simp [isBuiltIn] at resolved
  · cases candidate with
    | named =>
        simp [isSource, Candidate.source] at resolved
    | project name =>
        have same : file = path := by
          simpa [isSource, Candidate.source] using resolved
        simpa [same] using isFile
    | global =>
        have same : file = path := by
          simpa [isSource, Candidate.source] using resolved
        simpa [same] using isFile

/--
A configuration that cannot be read is one named on the command line, or a file to which
access is denied or whose bytes are no text.
-/
theorem load_eq_unreadable_cases
    {lookup : ConfigLookup}
    {path : Path}
    {error : FileError}
    (fails : lookup.load = .error (.unreadable path error)) :
    lookup.named = some path ∧ lookup.resolve = .explicit path ∨
      lookup.files.isFile path = true ∧ (error = .notText ∨ error = .permissionDenied) := by
  obtain ⟨-, -, isDefault⟩ | ⟨candidate, file, -, isPath, isSource, isLoaded, isFile⟩ :=
    lookup.resolve_cases
  · rw [isDefault] at fails
    cases fails
  · rw [isLoaded] at fails
    obtain ⟨rfl, textFails⟩ := Config.load_eq_unreadable_iff.mp fails
    rcases isFile with rfl | isFile
    · exact .inl ⟨isPath, isSource⟩
    · exact .inr ⟨isFile, FileSystem.error_of_readText_of_isFile isFile textFails⟩

/--
Two lookups for one target and one named configuration agree on the first place where
there is something, and on what can be read there.  Nothing is said of the places behind
it, nor of the path of the file.
-/
structure AgreesOnFirst
    (lookup other : ConfigLookup) : Prop where
  sameTarget :
    other.target = lookup.target
  sameNamed :
    other.named = lookup.named
  targetIsFile :
    other.files.isFile other.target = lookup.files.isFile lookup.target
  sameFirst :
    other.firstPresent? = lookup.firstPresent?
  sameContents :
    other.firstPath?.map other.files.readBytes = lookup.firstPath?.map lookup.files.readBytes

namespace AgreesOnFirst

variable
  {lookup other : ConfigLookup}
  (agrees : lookup.AgreesOnFirst other)

include agrees

/-- A target that is a file in both lookups, or in neither, belongs to the same folder. -/
theorem projectDirectory_eq :
    ConfigSource.projectDirectory other.files other.target =
      ConfigSource.projectDirectory lookup.files lookup.target := by
  rw [ConfigSource.projectDirectory, agrees.targetIsFile, agrees.sameTarget]
  rfl

/-- Only the file of the user can have another path. -/
theorem path?_eq
    {candidate : Candidate}
    (sameGlobal :
      candidate = .global →
      globalPath? other.environment = globalPath? lookup.environment) :
    other.path? candidate = lookup.path? candidate := by
  cases candidate with
  | named =>
      exact agrees.sameNamed
  | project name =>
      rw [path?, path?, agrees.projectDirectory_eq]
  | global =>
      exact sameGlobal rfl

/--
Either both lookups come to the defaults, or both come to a source of one kind whose
file can be read in the same way.
-/
theorem resolve_cases :
    other.resolve = lookup.resolve ∧ other.load = lookup.load ∨
      ∃ candidate path otherPath,
        lookup.firstPresent? = some candidate ∧
          lookup.path? candidate = some path ∧
          other.path? candidate = some otherPath ∧
          lookup.resolve = candidate.source path ∧
          other.resolve = candidate.source otherPath ∧
          lookup.load = Config.load lookup.files path ∧
          other.load = Config.load other.files otherPath ∧
          other.files.readBytes otherPath = lookup.files.readBytes path := by
  obtain ⟨isNone, isBuiltIn, isDefault⟩ | ⟨candidate, path, first, isPath, isSource, isLoaded, -⟩ :=
      lookup.resolve_cases <;>
    obtain ⟨otherNone, otherBuiltIn, otherDefault⟩ |
      ⟨otherCandidate, otherPath, otherFirst, otherIsPath, otherSource, otherLoaded, -⟩ :=
      other.resolve_cases
  · exact .inl ⟨otherBuiltIn.trans isBuiltIn.symm, otherDefault.trans isDefault.symm⟩
  · rw [agrees.sameFirst, isNone] at otherFirst
    cases otherFirst
  · rw [agrees.sameFirst, first] at otherNone
    cases otherNone
  · rw [agrees.sameFirst, first, Option.some.injEq] at otherFirst
    subst otherFirst
    have sameContents := agrees.sameContents
    rw [firstPath?, firstPath?, agrees.sameFirst, first, Option.bind_some, Option.bind_some,
      isPath, otherIsPath, Option.map_some, Option.map_some, Option.some.injEq] at sameContents
    exact .inr ⟨candidate, path, otherPath, first, isPath, otherIsPath, isSource, otherSource,
      isLoaded, otherLoaded, sameContents⟩

theorem kind_eq :
    other.resolve.kind = lookup.resolve.kind := by
  obtain ⟨sameSource, -⟩ | ⟨candidate, _, _, -, -, -, isSource, otherSource, -⟩ :=
    agrees.resolve_cases
  · rw [sameSource]
  · rw [isSource, otherSource]
    cases candidate <;>
      rfl

theorem load_fault_eq :
    other.load.mapError ConfigError.fault = lookup.load.mapError ConfigError.fault := by
  obtain ⟨-, sameLoad⟩ | ⟨_, _, _, -, -, -, -, -, isLoaded, otherLoaded, sameBytes⟩ :=
    agrees.resolve_cases
  · rw [sameLoad]
  · rw [isLoaded, otherLoaded]
    exact Config.load_fault_eq_of_readBytes_eq sameBytes

/-- With one path for the file of the user, the sources and errors are the same. -/
theorem resolve_and_load_eq
    (sameGlobal :
      lookup.firstPresent? = some .global →
      globalPath? other.environment = globalPath? lookup.environment) :
    other.resolve = lookup.resolve ∧ other.load = lookup.load := by
  obtain same | ⟨candidate, path, otherPath, first, isPath, otherIsPath, isSource, otherSource,
      isLoaded, otherLoaded, sameBytes⟩ :=
    agrees.resolve_cases
  · exact same
  · have samePath : otherPath = path := by
      have samePaths :=
        agrees.path?_eq fun isGlobal : candidate = .global => sameGlobal (isGlobal ▸ first)
      rw [isPath, otherIsPath, Option.some.injEq] at samePaths
      exact samePaths
    subst samePath
    exact ⟨otherSource.trans isSource.symm,
      otherLoaded.trans ((Config.load_eq_of_readBytes_eq sameBytes).trans isLoaded.symm)⟩

end AgreesOnFirst

/--
The first place where there is something decides.  Lookups that agree on it, and on what
can be read there, come to the same kind of source and to the same configuration, or to
errors that differ at most in the path they name.  Unless the file of the user is first
and its path differs, the source and the error are the same.  The configuration of a
project or of the user is always a file, so only one named on the command line can be
missing.
-/
theorem first_present_decides
    (lookup : ConfigLookup) :
    lookup.resolve =
        (([Candidate.named, .project "rst-lint.toml", .project ".rst-lint.toml", .global].find?
          lookup.isPresent).bind fun candidate =>
            (lookup.path? candidate).map candidate.source).getD .builtIn ∧
    (∀ other,
      lookup.AgreesOnFirst other →
      other.resolve.kind = lookup.resolve.kind ∧
        other.load.mapError ConfigError.fault = lookup.load.mapError ConfigError.fault ∧
        ((lookup.firstPresent? = some .global →
            globalPath? other.environment = globalPath? lookup.environment) →
          other.resolve = lookup.resolve ∧ other.load = lookup.load)) ∧
    (∀ path,
      lookup.resolve = .project path ∨ lookup.resolve = .global path →
      lookup.files.isFile path = true) ∧
    ∀ path error,
      lookup.load = .error (.unreadable path error) →
      lookup.named = some path ∧ lookup.resolve = .explicit path ∨
        lookup.files.isFile path = true ∧ (error = .notText ∨ error = .permissionDenied) :=
  ⟨lookup.resolve_eq,
    fun _ agrees => ⟨agrees.kind_eq, agrees.load_fault_eq, agrees.resolve_and_load_eq⟩,
    fun _ => isFile_of_resolve,
    fun _ _ => load_eq_unreadable_cases⟩

/-- A folder with a configuration, beside a folder with the name of another one. -/
def inFolder : ConfigLookup where
  files :=
    { root :=
        .directory
          [("docs",
            .directory
              [("rst-lint.toml", .directory []),
                (".rst-lint.toml", .file (some (Utf8.encode "groups = [\"sonata\"]".toList))),
                ("index.rst", .file (some []))])]
      workingDirectory := some (.ofString "/") }
  environment := {}
  target := .ofString "docs"
  named := none

/-- The folder without the other one, for a user with a broken configuration. -/
def inFolderOfUser : ConfigLookup where
  files :=
    { root :=
        .directory
          [("home", .directory [(".rst-lint", .directory [("config.toml", .file (some [0xFF]))])]),
            ("docs",
              .directory
                [("index.rst", .file (some [0x3D])),
                  (".rst-lint.toml",
                    .file (some (Utf8.encode "groups = [\"sonata\"]".toList)))])]
      workingDirectory := some (.ofString "/") }
  environment := { home := some "/home" }
  target := .ofString "docs"
  named := none

/-- A lookup for a configuration that is not there. -/
def missing : ConfigLookup :=
  { inFolder with named := some (.ofString "gone.toml") }

/-- A lookup for one of two users whose configurations have the same contents. -/
def ofUser
    (home : String) : ConfigLookup where
  files :=
    { root :=
        .directory
          [("a", .directory [(".rst-lint", .directory [("config.toml", .file (some [0xFF]))])]),
            ("b", .directory [(".rst-lint", .directory [("config.toml", .file (some [0xFF]))])])]
      workingDirectory := some (.ofString "/") }
  environment := { home := some home }
  target := .ofString "."
  named := none

theorem agreesOnFirst_ofUser :
    (ofUser "/a").AgreesOnFirst (ofUser "/b") where
  sameTarget := rfl
  sameNamed := rfl
  targetIsFile := rfl
  sameFirst := Eq.trans (b := some .global) rfl rfl
  sameContents := Eq.trans (b := some (.ok [0xFF])) rfl rfl

theorem first_present_decides_in_folder :
    (inFolderOfUser.resolve = inFolder.resolve ∧ inFolderOfUser.load = inFolder.load) ∧
      ((ofUser "/b").resolve.kind = .global ∧
        (ofUser "/b").load.mapError ConfigError.fault = .error (.unreadable .notText)) ∧
      inFolder.files.isFile (.ofString "docs/.rst-lint.toml") = true ∧
      missing.named = some (.ofString "gone.toml") ∧
      missing.resolve = .explicit (.ofString "gone.toml") := by
  have first : inFolder.firstPresent? = some (.project ".rst-lint.toml") := by
    rfl
  have agrees : inFolder.AgreesOnFirst inFolderOfUser := {
    sameTarget := rfl
    sameNamed := rfl
    targetIsFile := rfl
    sameFirst := Eq.trans (b := some (.project ".rst-lint.toml")) rfl rfl
    sameContents :=
      Eq.trans (b := some (.ok (Utf8.encode "groups = [\"sonata\"]".toList))) rfl rfl
  }
  have resolved : inFolder.resolve = .project (.ofString "docs/.rst-lint.toml") := by
    rfl
  have fails :
      missing.load = .error (.unreadable (.ofString "gone.toml") .notFound) := by
    rfl
  obtain ⟨sameKind, sameFault, -⟩ :=
    (first_present_decides (ofUser "/a")).2.1 _ agreesOnFirst_ofUser
  have isNamed := (first_present_decides missing).2.2.2 _ _ fails
  refine
    ⟨((first_present_decides inFolder).2.1 _ agrees).2.2 ?_,
      ⟨sameKind.trans rfl, sameFault.trans rfl⟩,
      (first_present_decides inFolder).2.2.1 _ (.inl resolved),
      isNamed.resolve_right (by simp)⟩
  simp [first]

/-- Two users whose configurations have the same contents still have two sources. -/
theorem equal_contents_differ_in_source :
    ¬ ∀ lookup other : ConfigLookup,
      lookup.AgreesOnFirst other →
      other.resolve = lookup.resolve ∧ other.load = lookup.load := by
  intro same
  have sameSource := (same _ _ agreesOnFirst_ofUser).1
  revert sameSource
  decide

end ConfigLookup

end MarkupLint
