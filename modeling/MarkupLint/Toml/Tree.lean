import MarkupLint.Toml.Value

namespace MarkupLint

/-!
# Tables under construction

The statements of a configuration file define tables piece by piece, and a table
that has been defined once may not be defined again.  What may still be added to
a table depends on how it came about, so the tree that is built keeps that with
every table until the file ends.
-/

namespace Toml

/-- How a table came about. -/
inductive Origin where
  /-- Opened by its own header. -/
  | header
  /-- Implied by the header of a table inside it. -/
  | implied
  /-- Implied by a dotted key. -/
  | dotted
  deriving Repr, DecidableEq

/-- A tree of tables; values, tables written in braces included, are leaves. -/
inductive Tree where
  | leaf (value : Value)
  | table (origin : Origin) (entries : List (String × Tree))
  | tables (items : List (List (String × Tree)))
  deriving Repr

/-- The entries of a table under construction. -/
abbrev Entries := List (String × Tree)

namespace Entries

/-- The tree at a key. -/
def lookup? (key : String) (entries : Entries) : Option Tree :=
  (entries.find? (·.1 == key)).map (·.2)

/-- Replace the tree at a key, or add it at the end. -/
def put (key : String) (tree : Tree) : Entries → Entries
  | [] => [(key, tree)]
  | (name, old) :: entries =>
      if name == key then
        (name, tree) :: entries
      else
        (name, old) :: put key tree entries

/-- Change the last of several tables. -/
def changeLast? (change : Entries → Option Entries) :
    List Entries → Option (List Entries)
  | [] => none
  | [last] => (change last).map ([·])
  | item :: items => (changeLast? change items).map (item :: ·)

/--
Change the table at the end of a path below a table.  Missing tables on the way
are made with the given origin; a value on the way blocks it, and a dotted key
does not lead through a table that has a header.  Of several tables the last one
is meant.
-/
def change? (made : Origin) (change : Origin → Entries → Option Entries) :
    (path : List String) → (origin : Origin) → Entries → Option Entries
  | [], origin, entries => change origin entries
  | key :: path, _, entries =>
      match entries.lookup? key with
      | none =>
          (change? made change path made []).map fun below =>
            entries.put key (.table made below)
      | some (.leaf _) => none
      | some (.tables items) =>
          (changeLast? (change? made change path .header) items).map fun items =>
            entries.put key (.tables items)
      | some (.table origin below) =>
          if made = .dotted ∧ origin = .header then
            none
          else
            (change? made change path origin below).map fun below =>
              entries.put key (.table origin below)

/-- Add a value at a key that is still free. -/
def addValue? (key : String) (value : Value) (entries : Entries) : Option Entries :=
  match entries.lookup? key with
  | some _ => none
  | none => some (entries.put key (.leaf value))

/--
Add a value at a dotted key.  The path leads to a table that only dotted keys
have made, unless it is empty.
-/
def assign? (path : List String) (key : String) (value : Value) (entries : Entries) :
    Option Entries :=
  change? .dotted
    (fun origin below =>
      if origin = .dotted ∨ path.isEmpty then
        below.addValue? key value
      else
        none)
    path .header entries

/-- Open the table of a header; it may have been implied before, but not opened. -/
def openTable? (path : List String) (key : String) (entries : Entries) : Option Entries :=
  change? .implied
    (fun _ below =>
      match below.lookup? key with
      | none => some (below.put key (.table .header []))
      | some (.table .implied inner) => some (below.put key (.table .header inner))
      | some _ => none)
    path .header entries

/-- Open one more of several tables. -/
def openNext? (path : List String) (key : String) (entries : Entries) : Option Entries :=
  change? .implied
    (fun _ below =>
      match below.lookup? key with
      | none => some (below.put key (.tables [[]]))
      | some (.tables items) => some (below.put key (.tables (items ++ [[]])))
      | some _ => none)
    path .header entries

end Entries

mutual

/-- The value that a finished tree stands for. -/
def Tree.toValue : Tree → Value
  | .leaf value => value
  | .table _ entries => .table (entriesToValues entries)
  | .tables items => .array (tablesToValues items)

/-- The entries of a finished table. -/
def entriesToValues : List (String × Tree) → List (String × Value)
  | [] => []
  | (key, tree) :: entries => (key, tree.toValue) :: entriesToValues entries

/-- Several finished tables. -/
def tablesToValues : List (List (String × Tree)) → List Value
  | [] => []
  | entries :: items => .table (entriesToValues entries) :: tablesToValues items

end

end Toml

end MarkupLint
