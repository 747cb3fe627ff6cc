import MarkupLint.Files.FileTree
import MarkupLint.Proofs.Attempts
import MarkupLint.Proofs.Files.Path
import MarkupLint.Proofs.Text.Utf8

namespace MarkupLint

/-!
# Reading what was written

A file that is written into the working directory is found there afterwards, and its
text is the one that was written.  The path to the working directory may climb with
double dots, so the places on the way are compared one by one: a write keeps every
directory, hence every step that was possible before it is possible after it and
leads to the place of the same names.
-/

namespace FileTree

/-- What names lead to, one after the other. -/
def get?
    (tree : FileTree) :
    List FileName → Option FileTree
  | [] => some tree
  | name :: names => (tree.entry? name).bind fun entry => entry.get? names

theorem get?_append_singleton
    (tree : FileTree)
    (names : List FileName)
    (name : FileName) :
    tree.get? (names ++ [name]) =
      (tree.get? names).bind fun parent => parent.entry? name := by
  induction names generalizing tree with
  | nil =>
      simp only [List.nil_append, get?, Option.bind_some, Option.bind_fun_some]
  | cons first rest inductionHypothesis =>
      simp only [List.cons_append, get?, inductionHypothesis, Option.bind_assoc]

theorem isDirectory_of_hasEntry
    {tree entry : FileTree}
    {name : FileName}
    (found : tree.entry? name = some entry) :
    tree.isDirectory = true := by
  cases tree with
  | file contents =>
      cases found
  | directory entries =>
      rfl

/-- An entry that was put is found under its name, and the others stay what they were. -/
theorem entry?_putEntry
    (name : FileName)
    (new : FileTree)
    (entries : List (FileName × FileTree))
    (other : FileName) :
    entry? other (directory (putEntry name new entries)) =
      if name = other then some new else entry? other (directory entries) := by
  unfold entry?
  simp only
  induction entries with
  | nil =>
      by_cases same : name = other <;>
        simp [putEntry, same]
  | cons first rest inductionHypothesis =>
      obtain ⟨firstName, firstTree⟩ := first
      by_cases isFirst : firstName = name <;> by_cases same : name = other <;>
        by_cases isOther : firstName = other <;>
          simp_all [putEntry]

@[simp] theorem get?_insert_self
    (tree : FileTree)
    (names : List FileName)
    (new : FileTree) :
    (tree.insert names new).get? names = some new := by
  induction names generalizing tree with
  | nil =>
      rfl
  | cons name names inductionHypothesis =>
      rw [insert, get?, entry?_putEntry, if_pos rfl, Option.bind_some, inductionHypothesis]

/-- A write keeps the directories, unless it is made where one of them is. -/
theorem exists_get?_insert
    {tree : FileTree}
    {target : List FileName}
    (isFree : ∀ old, tree.get? target = some old → old.isDirectory = false)
    (new : FileTree)
    {names : List FileName}
    {old : FileTree}
    (found : tree.get? names = some old)
    (isDirectory : old.isDirectory = true) :
    ∃ kept, (tree.insert target new).get? names = some kept ∧ kept.isDirectory = true := by
  induction target generalizing tree names with
  | nil =>
      have isFile : tree.isDirectory = false := isFree tree rfl
      cases names with
      | nil =>
          cases found
          rw [isFile] at isDirectory
          cases isDirectory
      | cons name names =>
          obtain ⟨entry, hasEntry, -⟩ := Option.bind_eq_some_iff.mp found
          rw [isDirectory_of_hasEntry hasEntry] at isFile
          cases isFile
  | cons first target inductionHypothesis =>
      cases names with
      | nil =>
          exact ⟨_, rfl, rfl⟩
      | cons name names =>
          obtain ⟨entry, hasEntry, foundBelow⟩ := Option.bind_eq_some_iff.mp found
          rw [insert, get?, entry?_putEntry]
          by_cases same : first = name
          · subst same
            have entryOrEmpty : tree.entryOrEmpty first = entry := by
              rw [FileTree.entryOrEmpty, hasEntry, Option.getD_some]
            have isFreeBelow :
                ∀ old, entry.get? target = some old → old.isDirectory = false := by
              intro old foundOld
              apply isFree
              rw [get?, hasEntry, Option.bind_some, foundOld]
            rw [if_pos rfl, Option.bind_some, entryOrEmpty]
            exact inductionHypothesis isFreeBelow foundBelow
          · have sameEntry : entry? name (directory tree.entries) = some entry := by
              cases tree with
              | file contents =>
                  cases hasEntry
              | directory entries =>
                  exact hasEntry
            rw [if_neg same, sameEntry, Option.bind_some]
            exact ⟨old, foundBelow, isDirectory⟩

end FileTree

namespace Place

/-- A place in a tree: each directory above it holds the next one under its name. -/
inductive IsIn
    (root : FileTree) :
    Place → Prop where
  | root :
      IsIn root ⟨root, []⟩
  | entry
      {place : Place}
      {name : FileName}
      {tree : FileTree}
      (above : IsIn root place)
      (found : place.tree.entry? name = some tree) :
      IsIn root ⟨tree, (name, place.tree) :: place.above⟩

theorem names_cons
    (place : Place)
    (name : FileName)
    (tree : FileTree) :
    names ⟨tree, (name, place.tree) :: place.above⟩ = place.names ++ [name] := by
  simp only [names, List.map_cons, List.reverse_cons]

/-- The names of a place lead to its tree. -/
theorem IsIn.get?_names
    {root : FileTree}
    {place : Place}
    (isIn : place.IsIn root) :
    root.get? place.names = some place.tree := by
  induction isIn with
  | root =>
      rfl
  | @entry place name tree above found inductionHypothesis =>
      rw [names_cons, FileTree.get?_append_singleton, inductionHypothesis, Option.bind_some, found]

theorem isDirectory_of_follow
    {place next : Place}
    {piece : FileName}
    (step : place.follow piece = .ok next) :
    place.tree.isDirectory = true := by
  unfold follow at step
  by_cases isDirectory : place.tree.isDirectory = true
  · exact isDirectory
  · simp [isDirectory] at step

theorem follow_dot_eq_ok
    {place next : Place}
    (step : place.follow "." = .ok next) :
    next = place ∧ place.tree.isDirectory = true := by
  have isDirectory := isDirectory_of_follow step
  rw [follow, isDirectory, if_neg (by simp), if_pos (by decide)] at step
  exact ⟨(Except.ok.inj step).symm, isDirectory⟩

theorem isDirectory_of_foldlM_follow
    {place next : Place}
    {pieces : List FileName}
    (steps : pieces.foldlM follow place = .ok next)
    (nextIsDirectory : next.tree.isDirectory = true) :
    place.tree.isDirectory = true := by
  cases pieces with
  | nil =>
      cases steps
      exact nextIsDirectory
  | cons piece pieces =>
      rw [List.foldlM_cons] at steps
      obtain ⟨between, step, -⟩ := exists_ok_of_bind_eq_ok steps
      exact isDirectory_of_follow step

/-- The place above a place of a tree is in the tree too. -/
theorem IsIn.of_above
    {root tree entry : FileTree}
    {name : FileName}
    {above : List (FileName × FileTree)}
    (isIn : IsIn root ⟨entry, (name, tree) :: above⟩) :
    IsIn root ⟨tree, above⟩ := by
  cases isIn with
  | entry above found =>
      exact above

/-- Whether every directory of a tree is also one of another tree. -/
def KeepsDirectories
    (root after : FileTree) : Prop :=
  ∀ names tree,
    root.get? names = some tree →
    tree.isDirectory = true →
    ∃ kept, after.get? names = some kept ∧ kept.isDirectory = true

/-- Places of the same names in two trees. -/
structure Corresponds
    (root after : FileTree)
    (place other : Place) : Prop where
  isIn : place.IsIn root
  otherIsIn : other.IsIn after
  sameAbove : other.above.map (·.1) = place.above.map (·.1)

namespace Corresponds

protected theorem root
    (root after : FileTree) :
    Corresponds root after ⟨root, []⟩ ⟨after, []⟩ :=
  ⟨.root, .root, rfl⟩

variable
  {root after : FileTree}
  {place other next : Place}

theorem get?_names
    (corresponds : Corresponds root after place other) :
    after.get? place.names = some other.tree := by
  rw [names, ← corresponds.sameAbove]
  exact corresponds.otherIsIn.get?_names

theorem isDirectory
    (corresponds : Corresponds root after place other)
    (keeps : KeepsDirectories root after)
    (placeIsDirectory : place.tree.isDirectory = true) :
    other.tree.isDirectory = true := by
  obtain ⟨kept, found, keptIsDirectory⟩ :=
    keeps _ _ corresponds.isIn.get?_names placeIsDirectory
  rw [corresponds.get?_names, Option.some.injEq] at found
  exact found ▸ keptIsDirectory

/-- A directory below a place is found below the other place too. -/
theorem entry
    (corresponds : Corresponds root after place other)
    (keeps : KeepsDirectories root after)
    {name : FileName}
    {tree : FileTree}
    (found : place.tree.entry? name = some tree)
    (treeIsDirectory : tree.isDirectory = true) :
    ∃ kept,
      other.tree.entry? name = some kept ∧
        Corresponds root after ⟨tree, (name, place.tree) :: place.above⟩
          ⟨kept, (name, other.tree) :: other.above⟩ := by
  have isInBelow := corresponds.isIn.entry found
  obtain ⟨kept, foundKept, -⟩ := keeps _ _ isInBelow.get?_names treeIsDirectory
  rw [names_cons, FileTree.get?_append_singleton, corresponds.get?_names,
    Option.bind_some] at foundKept
  exact ⟨kept, foundKept, isInBelow, corresponds.otherIsIn.entry foundKept,
    congrArg (name :: ·) corresponds.sameAbove⟩

/-- A step between directories can be taken in a tree that keeps them. -/
theorem follow
    (corresponds : Corresponds root after place other)
    (keeps : KeepsDirectories root after)
    {piece : FileName}
    (step : place.follow piece = .ok next)
    (nextIsDirectory : next.tree.isDirectory = true) :
    ∃ otherNext, other.follow piece = .ok otherNext ∧ Corresponds root after next otherNext := by
  obtain ⟨tree, above⟩ := place
  obtain ⟨otherTree, otherAbove⟩ := other
  unfold Place.follow at step ⊢
  by_cases treeIsDirectory : tree.isDirectory = true
  · have otherIsDirectory : otherTree.isDirectory = true :=
      corresponds.isDirectory keeps treeIsDirectory
    simp only [treeIsDirectory, otherIsDirectory, Bool.not_true, Bool.false_eq_true, if_false]
      at step ⊢
    by_cases stays : piece.isIdle = true
    · rw [if_pos stays] at step ⊢
      cases step
      exact ⟨_, rfl, corresponds⟩
    rw [if_neg stays] at step ⊢
    by_cases climbs : piece.isParent = true
    · rw [if_pos climbs] at step ⊢
      cases above with
      | nil =>
          have otherIsRoot : otherAbove = [] := List.map_eq_nil_iff.mp corresponds.sameAbove
          subst otherIsRoot
          cases step
          exact ⟨_, rfl, corresponds⟩
      | cons entry above =>
          obtain ⟨otherEntry, otherAbove, rfl, -, sameAbove⟩ :=
            List.map_eq_cons_iff.mp corresponds.sameAbove
          cases step
          exact ⟨_, rfl, corresponds.isIn.of_above, corresponds.otherIsIn.of_above, sameAbove⟩
    rw [if_neg climbs] at step ⊢
    by_cases isLong : longestName < piece.bytes.length
    · rw [if_pos isLong] at step
      cases step
    rw [if_neg isLong] at step ⊢
    cases found : tree.entry? piece with
    | none =>
        rw [found] at step
        cases step
    | some entry =>
        rw [found] at step
        cases step
        obtain ⟨kept, hasEntry, correspondsBelow⟩ :=
          corresponds.entry keeps found nextIsDirectory
        rw [hasEntry]
        exact ⟨_, rfl, correspondsBelow⟩
  · simp [treeIsDirectory] at step

/-- The steps to a directory can all be taken in a tree that keeps the directories. -/
theorem foldlM_follow
    (corresponds : Corresponds root after place other)
    (keeps : KeepsDirectories root after)
    {pieces : List FileName}
    (steps : pieces.foldlM Place.follow place = .ok next)
    (nextIsDirectory : next.tree.isDirectory = true) :
    ∃ otherNext,
      pieces.foldlM Place.follow other = .ok otherNext ∧
        Corresponds root after next otherNext := by
  induction pieces generalizing place other with
  | nil =>
      cases steps
      exact ⟨other, rfl, corresponds⟩
  | cons piece pieces inductionHypothesis =>
      rw [List.foldlM_cons] at steps ⊢
      obtain ⟨between, step, furtherSteps⟩ := exists_ok_of_bind_eq_ok steps
      have betweenIsDirectory := isDirectory_of_foldlM_follow furtherSteps nextIsDirectory
      obtain ⟨otherBetween, otherStep, correspondsBetween⟩ :=
        corresponds.follow keeps step betweenIsDirectory
      obtain ⟨otherNext, otherSteps, correspondsNext⟩ :=
        inductionHypothesis correspondsBetween furtherSteps
      refine ⟨otherNext, ?_, correspondsNext⟩
      rw [otherStep]
      exact otherSteps

end Corresponds

/-- The steps of a path stay in the tree. -/
theorem IsIn.of_foldlM_follow
    {root : FileTree}
    {pieces : List FileName}
    {place : Place}
    (steps : pieces.foldlM follow ⟨root, []⟩ = .ok place)
    (isDirectory : place.tree.isDirectory = true) :
    place.IsIn root := by
  have keepsItself : KeepsDirectories root root :=
    fun _ tree found treeIsDirectory => ⟨tree, found, treeIsDirectory⟩
  obtain ⟨_, -, corresponds⟩ :=
    (Corresponds.root root root).foldlM_follow keepsItself steps isDirectory
  exact corresponds.isIn

/-- A file that is put below a place, but not over a directory, keeps the directories. -/
theorem IsIn.keepsDirectories_insert
    {root : FileTree}
    {place : Place}
    (isIn : place.IsIn root)
    {name : FileName}
    (isFree : ∀ old, place.tree.entry? name = some old → old.isDirectory = false)
    (new : FileTree) :
    KeepsDirectories root (root.insert (place.names ++ [name]) new) := by
  intro names tree found treeIsDirectory
  refine FileTree.exists_get?_insert ?_ new found treeIsDirectory
  intro old foundOld
  rw [FileTree.get?_append_singleton, isIn.get?_names, Option.bind_some] at foundOld
  exact isFree old foundOld

end Place

namespace Path

theorem isAbsolute_singleton
    {piece : FileName}
    (noSlash : slash ∉ piece.bytes) :
    (ofNames [piece]).isAbsolute = false := by
  cases shape : piece.bytes with
  | nil =>
      simp [isAbsolute, ofNames, joinWith, shape]
  | cons first rest =>
      rw [shape, List.mem_cons, not_or] at noSlash
      simp [isAbsolute, ofNames, joinWith, shape, Ne.symm noSlash.1]

theorem pieces_singleton
    {piece : FileName}
    (noSlash : slash ∉ piece.bytes) :
    (ofNames [piece]).pieces = [piece] := by
  rw [pieces, ofNames, List.map_singleton, joinWith, splitAtEach_of_not_mem noSlash,
    List.map_singleton]

theorem pieces_slash
    (before after : List UInt8) :
    pieces ⟨before ++ slash :: after⟩ = pieces ⟨before⟩ ++ pieces ⟨after⟩ := by
  simp only [pieces, splitAtEach_append_separator, List.map_append]

/-- Joined to one base, paths of a single piece differ in their last piece only. -/
theorem exists_pieces_join
    (base : Path) :
    ∃ front,
      ∀ piece : FileName,
        slash ∉ piece.bytes →
        (base.join (.ofNames [piece])).pieces = front ++ [piece] := by
  obtain ⟨bytes⟩ := base
  by_cases isEmpty : bytes = []
  · refine ⟨[], fun piece noSlash => ?_⟩
    rw [join, if_pos (by simp [isEmpty])]
    exact pieces_singleton noSlash
  by_cases endsInSlash : bytes.getLast? = some slash
  · obtain ⟨above, shape⟩ := List.getLast?_eq_some_iff.mp endsInSlash
    refine ⟨pieces ⟨above⟩, fun piece noSlash => ?_⟩
    rw [join, if_neg (by simp [isAbsolute_singleton noSlash, isEmpty]), if_pos endsInSlash]
    simp only [shape, List.append_assoc, List.singleton_append, pieces_slash]
    exact congrArg _ (pieces_singleton noSlash)
  · refine ⟨pieces ⟨bytes⟩, fun piece noSlash => ?_⟩
    rw [join, if_neg (by simp [isAbsolute_singleton noSlash, isEmpty]), if_neg endsInSlash,
      pieces_slash]
    exact congrArg _ (pieces_singleton noSlash)

end Path

namespace FileSystem

/-- A name that a file can have. -/
structure IsFileName
    (name : FileName) : Prop where
  leadsDown : name.isIdle = false ∧ name.isParent = false
  hasNoSlash : Path.slash ∉ name.bytes
  hasNoNull : 0 ∉ name.bytes
  isShort : name.bytes.length ≤ Place.longestName

theorem IsFileName.isNotEmpty
    {name : FileName}
    (isFileName : IsFileName name) :
    name.bytes ≠ [] := by
  intro isEmpty
  simpa [FileName.isIdle, isEmpty] using isFileName.leadsDown.1

/-- A single piece is followed from the place that the working directory leads to. -/
theorem exists_find_eq
    (workingDirectory : Path) :
    ∃ front : List FileName,
      ∀ (root : FileTree) (userIgnore : List UInt8) (piece : FileName),
        piece.bytes ≠ [] →
        Path.slash ∉ piece.bytes →
        0 ∉ piece.bytes →
        piece.bytes.length ≤ Place.longestName →
        find ⟨root, some workingDirectory, userIgnore⟩ (.ofNames [piece]) =
          front.foldlM Place.follow ⟨root, []⟩ >>= fun place => place.follow piece := by
  obtain ⟨front, pieces⟩ := workingDirectory.exists_pieces_join
  refine ⟨front, fun root userIgnore piece notEmpty noSlash noNull isShort => ?_⟩
  have hasBytes : (Path.ofNames [piece]).bytes.isEmpty = false := by
    simpa [Path.ofNames, joinWith] using notEmpty
  have hasNoNull : (Path.ofNames [piece]).bytes.contains 0 = false := by
    simpa [Path.ofNames, joinWith] using noNull
  have isShortPath : ¬ longestPath < (Path.ofNames [piece]).bytes.length := by
    simp only [longestPath, Place.longestName, Path.ofNames, List.map_singleton, joinWith]
      at isShort ⊢
    omega
  rw [find, hasBytes, hasNoNull, if_neg (by simp), if_neg (by simp), if_neg isShortPath,
    Path.from?_some]
  simp only [pieces piece noSlash, List.foldlM_append, List.foldlM_cons, List.foldlM_nil,
    bind_pure]

/-- Without a working directory no relative path leads anywhere. -/
theorem exists_workingDirectory_of_find
    {files : FileSystem}
    {path : Path}
    (relative : path.isAbsolute = false)
    {place : Place}
    (found : files.find path = .ok place) :
    ∃ directory, files.workingDirectory = some directory := by
  cases hasDirectory : files.workingDirectory with
  | none =>
      have unresolved : path.from? files.workingDirectory = none := by
        rw [Path.from?, relative, hasDirectory]
        rfl
      grind [find]
  | some directory =>
      exact ⟨directory, rfl⟩

/-- What a write that succeeds found in the working directory and what it left behind. -/
theorem exists_place_of_writeText
    {files after : FileSystem}
    {name : FileName}
    {text : List Char}
    (written : files.writeText name text = .ok after) :
    ∃ place,
      files.find (.ofString ".") = .ok place ∧
        (∀ old, place.tree.entry? name = some old → old.isDirectory = false) ∧
        after =
          { files with
            root :=
              files.root.insert (place.names ++ [name]) (.file (some (Utf8.encode text))) } := by
  unfold writeText at written
  obtain ⟨place, found, written⟩ := exists_ok_of_bind_eq_ok written
  refine ⟨place, found, ?_⟩
  split at written
  case h_1 =>
      cases written
  case h_2 =>
      cases written
  case h_3 noDirectory _ =>
      cases written
      refine ⟨?_, rfl⟩
      intro old hasEntry
      cases old with
      | file contents =>
          rfl
      | directory entries =>
          exact absurd hasEntry (noDirectory entries)

theorem follow_of_isFileName
    {place : Place}
    {name : FileName}
    {tree : FileTree}
    (isFileName : IsFileName name)
    (found : place.tree.entry? name = some tree) :
    place.follow name = .ok ⟨tree, (name, place.tree) :: place.above⟩ := by
  have isDirectory := FileTree.isDirectory_of_hasEntry found
  have isShort := Nat.not_lt.mpr isFileName.isShort
  simp [Place.follow, isDirectory, isFileName.leadsDown.1, isFileName.leadsDown.2, isShort,
    found]

/-- A file that was written into the working directory has the text that was written. -/
theorem readText_of_writeText
    {files after : FileSystem}
    {name : FileName}
    (isFileName : IsFileName name)
    {text : List Char}
    (written : files.writeText name text = .ok after) :
    after.readText (.ofNames [name]) = .ok text := by
  obtain ⟨place, foundDot, isFree, rfl⟩ := exists_place_of_writeText written
  obtain ⟨workingDirectory, hasDirectory⟩ :=
    exists_workingDirectory_of_find (by decide) foundDot
  obtain ⟨root, _, userIgnore⟩ := files
  cases hasDirectory
  obtain ⟨front, find⟩ := exists_find_eq workingDirectory
  have findDot := find root userIgnore "." (by decide) (by decide) (by decide) (by decide)
  obtain ⟨_, steps, lastStep⟩ := exists_ok_of_bind_eq_ok (findDot.symm.trans foundDot)
  obtain ⟨rfl, isDirectory⟩ := Place.follow_dot_eq_ok lastStep
  have isIn := Place.IsIn.of_foldlM_follow steps isDirectory
  have keeps := isIn.keepsDirectories_insert isFree (.file (some (Utf8.encode text)))
  obtain ⟨other, otherSteps, corresponds⟩ :=
    (Place.Corresponds.root root _).foldlM_follow keeps steps isDirectory
  have hasEntry : other.tree.entry? name = some (.file (some (Utf8.encode text))) := by
    have written :=
      FileTree.get?_insert_self root (place.names ++ [name])
        (.file (some (Utf8.encode text)))
    rw [FileTree.get?_append_singleton, corresponds.get?_names, Option.bind_some] at written
    exact written
  have found :
      FileSystem.find
          ⟨root.insert (place.names ++ [name]) (.file (some (Utf8.encode text))),
            some workingDirectory, userIgnore⟩
          (.ofNames [name]) =
        .ok ⟨.file (some (Utf8.encode text)), (name, other.tree) :: other.above⟩ := by
    rw [find _ _ _ isFileName.isNotEmpty isFileName.hasNoSlash isFileName.hasNoNull
      isFileName.isShort, otherSteps]
    exact follow_of_isFileName isFileName hasEntry
  rw [readText, readBytes, found]
  simp only [bind, Except.bind, Utf8.decode?_encode]

end FileSystem

end MarkupLint
