namespace MarkupLint

/-!
# Sets of suffixes

A pattern is matched from its end to its start: for every part, the suffixes of
the text that it can start are found from those that its successors can start.
Each part looks at every suffix once, so matching takes time in proportion to
the length of the pattern times the length of the text.
-/

/--
A set of suffixes of a sequence: one flag for each, from the whole sequence down
to the empty one.
-/
abbrev SuffixSet := List Bool

namespace SuffixSet

/-- The set that holds the empty suffix only. -/
def onlyEmpty : List α → SuffixSet
  | [] => [true]
  | _ :: items => false :: onlyEmpty items

/-- Whether the set holds the whole sequence. -/
def holdsWhole (set : SuffixSet) : Bool :=
  set.head? == some true

/-- Whether the set holds the empty suffix. -/
def holdsEmpty (set : SuffixSet) : Bool :=
  set.getLast? == some true

/-- The suffixes in one of two sets. -/
def union (set other : SuffixSet) : SuffixSet :=
  List.zipWith (· || ·) set other

/-- The suffixes that lead into the set by one accepted item. -/
def afterItem (accepts : α → Bool) : List α → SuffixSet → SuffixSet
  | item :: items, _ :: set => (accepts item && holdsWhole set) :: afterItem accepts items set
  | _, _ => [false]

/-- The suffixes that lead into the set by any number of accepted items. -/
def afterItems (accepts : α → Bool) : List α → SuffixSet → SuffixSet
  | item :: items, here :: set =>
      let shorter := afterItems accepts items set
      (here || (accepts item && holdsWhole shorter)) :: shorter
  | _, set => set

/-- The suffixes that lead into the set by any items up to an accepted one. -/
def afterAny (accepts : α → Bool) (items : List α) (set : SuffixSet) : SuffixSet :=
  afterItems (fun _ => true) items (afterItem accepts items set)

end SuffixSet

end MarkupLint
