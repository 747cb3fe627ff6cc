import MarkupLint.Text.SuffixSet

namespace MarkupLint.SuffixSet

/-!
# What a set of suffixes decides

A set of suffixes is a table of flags.  It decides a property when each flag says
whether its suffix has the property; every operation on sets is then an operation
on properties, and the table itself never has to be looked at.
-/

/-- Every flag of the set says whether its suffix of the items has the property. -/
inductive Decides
    (property : List α → Prop) :
    SuffixSet → List α → Prop where
  | nil
      {flag : Bool} :
      (flag = true ↔ property []) →
      Decides property [flag] []
  | cons
      {flag : Bool}
      {set : SuffixSet}
      {item : α}
      {items : List α} :
      (flag = true ↔ property (item :: items)) →
      Decides property set items →
      Decides property (flag :: set) (item :: items)

theorem decides_onlyEmpty
    (items : List α) :
    Decides (· = []) (onlyEmpty items) items := by
  induction items with
  | nil =>
      exact .nil (by simp)
  | cons item rest inductionHypothesis =>
      exact .cons (by simp) inductionHypothesis

namespace Decides

variable
  {property other : List α → Prop}
  {set otherSet : SuffixSet}
  {items : List α}

theorem congr
    (decides : Decides property set items)
    (same : ∀ suffix, property suffix ↔ other suffix) :
    Decides other set items := by
  have sameProperty : property = other :=
    funext fun suffix => propext (same suffix)
  rw [← sameProperty]
  exact decides

theorem holdsWhole_iff
    (decides : Decides property set items) :
    holdsWhole set = true ↔ property items := by
  cases decides with
  | nil flagDecides =>
      simpa [holdsWhole] using flagDecides
  | cons flagDecides _ =>
      simpa [holdsWhole] using flagDecides

theorem holdsEmpty_iff
    (decides : Decides property set items) :
    holdsEmpty set = true ↔ property [] := by
  induction decides with
  | nil flagDecides =>
      simpa [holdsEmpty] using flagDecides
  | cons _ restDecides inductionHypothesis =>
      rw [← inductionHypothesis]
      cases restDecides <;>
        simp [holdsEmpty]

theorem map_true
    (decides : Decides property set items) :
    Decides (fun _ => True) (set.map fun _ => true) items := by
  induction decides with
  | nil _ =>
      exact .nil (by simp)
  | cons _ _ inductionHypothesis =>
      exact .cons (by simp) inductionHypothesis

theorem union
    (decides : Decides property set items)
    (otherDecides : Decides other otherSet items) :
    Decides (fun suffix => property suffix ∨ other suffix)
      (SuffixSet.union set otherSet) items := by
  induction decides generalizing otherSet with
  | nil flagDecides =>
      cases otherDecides with
      | nil otherFlagDecides =>
          exact .nil (by rw [Bool.or_eq_true, flagDecides, otherFlagDecides])
  | cons flagDecides _ inductionHypothesis =>
      cases otherDecides with
      | cons otherFlagDecides otherRestDecides =>
          exact .cons (by rw [Bool.or_eq_true, flagDecides, otherFlagDecides])
            (inductionHypothesis otherRestDecides)

/-- One accepted item leads into the set. -/
theorem afterItem
    (decides : Decides property set items)
    (accepts : α → Bool) :
    Decides
      (fun suffix =>
        ∃ item rest, suffix = item :: rest ∧ accepts item = true ∧ property rest)
      (SuffixSet.afterItem accepts items set) items := by
  induction decides with
  | nil _ =>
      exact .nil (by simp)
  | @cons _ _ item rest _ restDecides inductionHypothesis =>
      refine .cons ?_ inductionHypothesis
      rw [Bool.and_eq_true, restDecides.holdsWhole_iff]
      constructor
      · rintro ⟨accepted, holds⟩
        exact ⟨item, rest, rfl, accepted, holds⟩
      · rintro ⟨_, _, ⟨rfl, rfl⟩, accepted, holds⟩
        exact ⟨accepted, holds⟩

/-- Any number of accepted items lead into the set. -/
theorem afterItems
    (decides : Decides property set items)
    (accepts : α → Bool) :
    Decides
      (fun suffix =>
        ∃ skipped rest,
          suffix = skipped ++ rest ∧
            (∀ item ∈ skipped, accepts item = true) ∧
            property rest)
      (SuffixSet.afterItems accepts items set) items := by
  induction decides with
  | nil flagDecides =>
      refine .nil (flagDecides.trans ?_)
      constructor
      · intro holds
        exact ⟨[], [], rfl, by simp, holds⟩
      · rintro ⟨skipped, rest, empty, -, holds⟩
        rw [← (List.append_eq_nil_iff.mp empty.symm).2]
        exact holds
  | @cons _ _ item rest flagDecides _ inductionHypothesis =>
      refine .cons ?_ inductionHypothesis
      rw [Bool.or_eq_true, Bool.and_eq_true, inductionHypothesis.holdsWhole_iff, flagDecides]
      constructor
      · rintro (here | ⟨accepted, skipped, behind, rfl, inside, holds⟩)
        · exact ⟨[], item :: rest, rfl, by simp, here⟩
        · exact ⟨item :: skipped, behind, rfl, by simpa [accepted] using inside, holds⟩
      · rintro ⟨skipped, behind, shape, inside, holds⟩
        cases skipped with
        | nil =>
            exact .inl (by simpa [shape] using holds)
        | cons first others =>
            obtain ⟨rfl, restShape⟩ := List.cons.inj shape
            exact .inr ⟨inside item (by simp), others, behind, restShape,
              fun member inOthers => inside member (by simp [inOthers]), holds⟩

/-- Any items and an accepted one behind them lead into the set. -/
theorem afterAny
    (decides : Decides property set items)
    (accepts : α → Bool) :
    Decides
      (fun suffix =>
        ∃ skipped item rest,
          suffix = skipped ++ item :: rest ∧ accepts item = true ∧ property rest)
      (SuffixSet.afterAny accepts items set) items := by
  apply ((decides.afterItem accepts).afterItems fun _ => true).congr
  intro suffix
  constructor
  · rintro ⟨skipped, _, shape, -, item, rest, rfl, accepted, holds⟩
    exact ⟨skipped, item, rest, shape, accepted, holds⟩
  · rintro ⟨skipped, item, rest, shape, accepted, holds⟩
    exact ⟨skipped, item :: rest, shape, by simp, item, rest, rfl, accepted, holds⟩

end Decides

end MarkupLint.SuffixSet
