import MarkupLint.Files.Walk

namespace MarkupLint

/-!
# What a walk finds

The files of a tree lie at or below the names of the tree, so a walk from a directory
never finds the directory itself, and a walk from a file finds nothing else.
-/

namespace Walk

mutual

theorem isPrefix_of_mem_filesIn
    {walk : Walk}
    {layers : List IgnoreLayer}
    {names : List FileName}
    {file : WalkedFile}
    (tree : FileTree)
    (member : file ∈ walk.filesIn layers names tree) :
    names <+: file.names := by
  cases tree with
  | file contents =>
      rw [filesIn, List.mem_singleton] at member
      exact member ▸ List.prefix_refl names
  | directory entries =>
      rw [filesIn] at member
      obtain ⟨name, below⟩ := exists_isPrefix_of_mem_filesOf entries member
      exact (List.prefix_append names [name]).trans below

theorem exists_isPrefix_of_mem_filesOf
    {walk : Walk}
    {layers : List IgnoreLayer}
    {names : List FileName}
    {file : WalkedFile}
    (entries : List (FileName × FileTree))
    (member : file ∈ walk.filesOf layers names entries) :
    ∃ name, names ++ [name] <+: file.names := by
  cases entries with
  | nil =>
      rw [filesOf] at member
      cases member
  | cons entry entries =>
      obtain ⟨name, tree⟩ := entry
      rw [filesOf, List.mem_append] at member
      rcases member with inEntry | inOthers
      · split at inEntry
        · cases inEntry
        · exact ⟨name, isPrefix_of_mem_filesIn tree inEntry⟩
      · exact exists_isPrefix_of_mem_filesOf entries inOthers

end

end Walk

namespace FileSystem

/-- A walk that succeeds finds the files of the tree that its root leads to. -/
theorem exists_eq_filesIn_of_walk
    {files : FileSystem}
    {root : Path}
    {respectGitignore : Bool}
    {walked : List WalkedFile}
    (found : files.walk root respectGitignore = .ok walked) :
    ∃ place layers,
      files.find root = .ok place ∧
        walked = Walk.filesIn ⟨files, root, respectGitignore⟩ layers [] place.tree := by
  cases isPlace : files.find root with
  | error error =>
      simp [walk, isPlace] at found
  | ok place =>
      simp only [walk, isPlace] at found
      generalize (if place.tree.isDirectory = true then
        Walk.faultsAbove ⟨files, root, respectGitignore⟩ place else []) = faults at found
      split at found
      · exact ⟨place, _, rfl, (Except.ok.inj found).symm⟩
      · cases found

/-- A walk finds the root itself exactly if the root is a file. -/
theorem names_eq_nil_iff_of_mem_walk
    {files : FileSystem}
    {root : Path}
    {respectGitignore : Bool}
    {walked : List WalkedFile}
    (found : files.walk root respectGitignore = .ok walked)
    {file : WalkedFile}
    (member : file ∈ walked) :
    file.names = [] ↔ files.isFile root = true := by
  obtain ⟨place, layers, isPlace, rfl⟩ := exists_eq_filesIn_of_walk found
  rw [isFile, isPlace]
  cases shape : place.tree with
  | file contents =>
      rw [shape, Walk.filesIn, List.mem_singleton] at member
      simp [member, FileTree.isDirectory, shape]
  | directory entries =>
      rw [shape, Walk.filesIn] at member
      obtain ⟨name, below⟩ := Walk.exists_isPrefix_of_mem_filesOf entries member
      have belowRoot : file.names ≠ [] := by
        intro atRoot
        rw [atRoot] at below
        simp at below
      simp [belowRoot, FileTree.isDirectory, shape]

end FileSystem

end MarkupLint
