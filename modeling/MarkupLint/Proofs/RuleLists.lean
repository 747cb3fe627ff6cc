import MarkupLint.Proofs.Pieces

namespace MarkupLint

/-!
# Rules side by side

The rules are run together, line by line, yet none sees what another one reports.
Checking with two lists of rules is checking with each of them and putting the
violations in the order of their lines; at one line, those of the first list come
first.

A stable sort is known by what it leaves of each key: the result is sorted, and
the items with one key stand in it as they stood before.
-/

/-! ## Stable sorting by a key -/

section

variable
  {α : Type}
  {key : α → Nat}

theorem filter_key_cons
    (first : α)
    (rest : List α)
    (value : Nat) :
    (first :: rest).filter (fun item => key item = value) =
      if key first = value then
        first :: rest.filter fun item => key item = value
      else
        rest.filter fun item => key item = value := by
  by_cases same : key first = value <;>
    simp [same]

theorem mem_iff_of_filter_key_eq
    {items others : List α}
    (same :
      ∀ value,
        items.filter (fun item => key item = value) =
          others.filter fun item => key item = value)
    (item : α) :
    item ∈ items ↔ item ∈ others := by
  have inBoth := congrArg (item ∈ ·) (same (key item))
  simpa using inBoth

/--
A list that is sorted by a key is known by its items with each key.  Either head has the
least key of both lists, and is the first item with that key.
-/
theorem eq_of_filter_key_eq
    {items others : List α}
    (sorted : items.Pairwise fun item later => key item ≤ key later)
    (otherSorted : others.Pairwise fun item later => key item ≤ key later)
    (same :
      ∀ value,
        items.filter (fun item => key item = value) =
          others.filter fun item => key item = value) :
    items = others := by
  induction items generalizing others with
  | nil =>
      cases others with
      | nil =>
          rfl
      | cons other rest =>
          simpa using mem_iff_of_filter_key_eq same other
  | cons first rest inductionHypothesis =>
      cases others with
      | nil =>
          simpa using mem_iff_of_filter_key_eq same first
      | cons other otherRest =>
          rw [List.pairwise_cons] at sorted otherSorted
          have sameMembers := mem_iff_of_filter_key_eq same
          have firstLeast : key first ≤ key other := by
            rcases List.mem_cons.mp ((sameMembers other).mpr (by simp)) with rfl | inRest
            · exact Nat.le_refl _
            · exact sorted.1 other inRest
          have otherLeast : key other ≤ key first := by
            rcases List.mem_cons.mp ((sameMembers first).mp (by simp)) with rfl | inRest
            · exact Nat.le_refl _
            · exact otherSorted.1 first inRest
          have sameKey : key first = key other :=
            Nat.le_antisymm firstLeast otherLeast
          have sameHead : first = other := by
            have atKey := same (key other)
            rw [filter_key_cons, filter_key_cons, if_pos sameKey, if_pos rfl] at atKey
            exact (List.cons.inj atKey).1
          subst sameHead
          have sameRest :
              ∀ value,
                rest.filter (fun item => key item = value) =
                  otherRest.filter fun item => key item = value := by
            intro value
            have atValue := same value
            rw [filter_key_cons, filter_key_cons] at atValue
            by_cases isKey : key first = value
            · rw [if_pos isKey, if_pos isKey] at atValue
              exact (List.cons.inj atValue).2
            · rwa [if_neg isKey, if_neg isKey] at atValue
          rw [inductionHypothesis sorted.2 otherSorted.2 sameRest]

theorem key_le_trans
    (key : α → Nat)
    (item other third : α)
    (first : decide (key item ≤ key other) = true)
    (second : decide (key other ≤ key third) = true) :
    decide (key item ≤ key third) = true := by
  rw [decide_eq_true_iff] at first second ⊢
  exact Nat.le_trans first second

theorem key_le_total
    (key : α → Nat)
    (item other : α) :
    (decide (key item ≤ key other) || decide (key other ≤ key item)) = true := by
  rw [Bool.or_eq_true, decide_eq_true_iff, decide_eq_true_iff]
  exact Nat.le_total _ _

theorem pairwise_mergeSort_key
    (items : List α) :
    (items.mergeSort fun item other => key item ≤ key other).Pairwise
      fun item later => key item ≤ key later := by
  have sorted := List.pairwise_mergeSort (key_le_trans key) (key_le_total key) items
  simpa using sorted

/--
Sorting by a key leaves the items with one key in their order.  Items with one key are
sorted as they stand, so sorting keeps them as a sublist.
-/
theorem filter_key_mergeSort
    (items : List α)
    (value : Nat) :
    (items.mergeSort fun item other => key item ≤ key other).filter
        (fun item => key item = value) =
      items.filter fun item => key item = value := by
  have ofOneKey :
      (items.filter fun item => key item = value).Pairwise
        fun item later => decide (key item ≤ key later) = true := by
    rw [List.pairwise_filter]
    apply List.pairwise_of_forall
    intro item later hasKey laterHasKey
    rw [decide_eq_true_iff] at hasKey laterHasKey ⊢
    omega
  have kept :
      (items.filter fun item => key item = value).Sublist
        (items.mergeSort fun item other => key item ≤ key other) :=
    List.sublist_mergeSort (key_le_trans key) (key_le_total key) ofOneKey
      List.filter_sublist
  have keptOfKey := kept.filter fun item => decide (key item = value)
  simp only [List.filter_filter, Bool.and_self] at keptOfKey
  symm
  apply keptOfKey.eq_of_length
  exact ((List.mergeSort_perm items _).filter _).length_eq.symm

end

/-! ## The violations of one line -/

/-- Where only one item finds anything, that is all that is found. -/
theorem flatMap_eq_of_unique
    {α β : Type}
    {items : List α}
    {find : α → List β}
    {item : α}
    (noDuplicates : items.Nodup)
    (member : item ∈ items)
    (nothing : ∀ other ∈ items, other ≠ item → find other = []) :
    items.flatMap find = find item := by
  induction items with
  | nil =>
      cases member
  | cons first rest inductionHypothesis =>
      rw [List.nodup_cons] at noDuplicates
      rw [List.flatMap_cons]
      rcases List.mem_cons.mp member with rfl | inRest
      · have restNothing : rest.flatMap find = [] := by
          rw [List.flatMap_eq_nil_iff]
          intro other inRest
          apply nothing other (List.mem_cons_of_mem item inRest)
          rintro rfl
          exact noDuplicates.1 inRest
        rw [restNothing, List.append_nil]
      · have firstNothing : find first = [] := by
          apply nothing first List.mem_cons_self
          rintro rfl
          exact noDuplicates.1 inRest
        rw [firstNothing, List.nil_append]
        exact inductionHypothesis noDuplicates.2 inRest fun other inOthers =>
          nothing other (List.mem_cons_of_mem first inOthers)

namespace Analyzer

theorem checkDocument_eq_flatMap_violationsAt
    (analyzer : Analyzer)
    (file : Path)
    (document : Document) :
    analyzer.checkDocument file document =
      (List.range document.size).flatMap (analyzer.violationsAt file document) := by
  rfl

theorem filter_line_violationsAt
    (analyzer : Analyzer)
    (file : Path)
    (document : Document)
    (index line : Nat) :
    (analyzer.violationsAt file document index).filter
        (fun violation => violation.location.line = line) =
      if index + 1 = line then
        analyzer.violationsAt file document index
      else
        [] := by
  by_cases here : index + 1 = line
  · rw [if_pos here, List.filter_eq_self]
    intro violation member
    rw [line_of_mem_violationsAt member, decide_eq_true_iff]
    exact here
  · rw [if_neg here, List.filter_eq_nil_iff]
    intro violation member
    rw [line_of_mem_violationsAt member, decide_eq_true_iff]
    exact here

/-- Of the violations of a document, those with one line number are the ones at that line. -/
theorem filter_line_checkDocument
    (analyzer : Analyzer)
    (file : Path)
    (document : Document)
    (index : Nat) :
    (analyzer.checkDocument file document).filter
        (fun violation => violation.location.line = index + 1) =
      if index < document.size then
        analyzer.violationsAt file document index
      else
        [] := by
  rw [checkDocument_eq_flatMap_violationsAt, List.filter_flatMap]
  simp only [filter_line_violationsAt, Nat.add_right_cancel_iff]
  by_cases inside : index < document.size
  · rw [if_pos inside]
    refine (flatMap_eq_of_unique List.nodup_range (List.mem_range.mpr inside) ?_).trans
      (if_pos rfl)
    intro other _ elsewhere
    exact if_neg elsewhere
  · rw [if_neg inside, List.flatMap_eq_nil_iff]
    intro other member
    have otherInside := List.mem_range.mp member
    exact if_neg (by omega)

theorem line_pos_of_mem_checkDocument
    {analyzer : Analyzer}
    {file : Path}
    {document : Document}
    {violation : Violation}
    (member : violation ∈ analyzer.checkDocument file document) :
    1 ≤ violation.location.line := by
  obtain ⟨index, -, found⟩ := List.mem_flatMap.mp member
  rw [line_of_mem_violationsAt found]
  exact Nat.le_add_left 1 index

/-- Violations are found from the top of a document to its end. -/
theorem checkDocument_pairwise_line
    (analyzer : Analyzer)
    (file : Path)
    (document : Document) :
    (analyzer.checkDocument file document).Pairwise
      fun violation later => violation.location.line ≤ later.location.line := by
  rw [checkDocument_eq_flatMap_violationsAt, List.pairwise_flatMap]
  constructor
  · intro index _
    rw [List.pairwise_iff_forall_sublist]
    intro violation later ordered
    have members := ordered.subset
    have line : violation.location.line = index + 1 :=
      line_of_mem_violationsAt (members (by simp))
    have laterLine : later.location.line = index + 1 :=
      line_of_mem_violationsAt (members (by simp))
    exact Nat.le_of_eq (line.trans laterLine.symm)
  · apply List.pairwise_lt_range.imp
    intro index laterIndex isLater violation found later laterFound
    rw [line_of_mem_violationsAt found, line_of_mem_violationsAt laterFound]
    omega

/-! ## Lists of rules -/

section

variable
  (analyzer : Analyzer)
  (file : Path)
  (document : Document)

theorem violationsAt_append_rules
    (rules others : List Rule)
    (index : Nat) :
    violationsAt { analyzer with rules := rules ++ others } file document index =
      violationsAt { analyzer with rules := rules } file document index ++
        violationsAt { analyzer with rules := others } file document index := by
  simp only [violationsAt, activeRules, List.filter_append, List.filterMap_append]
  rfl

/-- At each line, two lists of rules report what the first reports, and then the second. -/
theorem filter_line_append_rules
    (rules others : List Rule)
    (line : Nat) :
    (checkDocument { analyzer with rules := rules ++ others } file document).filter
        (fun violation => violation.location.line = line) =
      (checkDocument { analyzer with rules := rules } file document ++
        checkDocument { analyzer with rules := others } file document).filter
          fun violation => violation.location.line = line := by
  rw [List.filter_append]
  cases line with
  | zero =>
      have noneAtZero
          (other : Analyzer) :
          (other.checkDocument file document).filter
              (fun violation => violation.location.line = 0) = [] := by
        rw [List.filter_eq_nil_iff]
        intro violation member
        have positive := line_pos_of_mem_checkDocument member
        rw [decide_eq_true_iff]
        omega
      rw [noneAtZero, noneAtZero, noneAtZero, List.append_nil]
  | succ index =>
      simp only [filter_line_checkDocument]
      by_cases inside : index < document.size
      · rw [if_pos inside, if_pos inside, if_pos inside, violationsAt_append_rules]
      · rw [if_neg inside, if_neg inside, if_neg inside, List.append_nil]

theorem checkDocument_append_rules_eq_mergeSort
    (rules others : List Rule) :
    checkDocument { analyzer with rules := rules ++ others } file document =
      (checkDocument { analyzer with rules := rules } file document ++
        checkDocument { analyzer with rules := others } file document).mergeSort
          fun violation other => violation.location.line ≤ other.location.line := by
  apply eq_of_filter_key_eq
  · exact checkDocument_pairwise_line _ file document
  · exact pairwise_mergeSort_key _
  · intro line
    rw [filter_line_append_rules]
    exact (filter_key_mergeSort _ line).symm

theorem checkDocument_append_rules_perm
    (rules others : List Rule) :
    (checkDocument { analyzer with rules := rules ++ others } file document).Perm
      (checkDocument { analyzer with rules := rules } file document ++
        checkDocument { analyzer with rules := others } file document) := by
  rw [checkDocument_append_rules_eq_mergeSort]
  exact List.mergeSort_perm _ _

theorem checkDocument_no_rules :
    checkDocument { analyzer with rules := [] } file document = [] := by
  rw [checkDocument_eq_flatMap_violationsAt, List.flatMap_eq_nil_iff]
  intro index _
  rfl

/-- A list of rules reports, up to the order, what its rules report on their own. -/
theorem checkDocument_perm_flatMap_rules
    (rules : List Rule) :
    (checkDocument { analyzer with rules := rules } file document).Perm
      (rules.flatMap fun rule =>
        checkDocument { analyzer with rules := [rule] } file document) := by
  induction rules with
  | nil =>
      rw [checkDocument_no_rules]
      exact List.Perm.refl []
  | cons rule rest inductionHypothesis =>
      rw [List.flatMap_cons]
      exact
        (checkDocument_append_rules_perm analyzer file document [rule] rest).trans
          (inductionHypothesis.append_left _)

theorem count_checkDocument_of_twice
    (before between after : List Rule)
    (rule : Rule)
    (violation : Violation) :
    (checkDocument
        { analyzer with rules := before ++ [rule] ++ between ++ [rule] ++ after }
          file document).count violation =
      (checkDocument { analyzer with rules := before ++ between ++ after }
          file document).count violation +
        2 * (checkDocument { analyzer with rules := [rule] } file document).count violation := by
  simp only [(checkDocument_append_rules_perm analyzer file document _ _).count_eq violation,
    List.count_append]
  omega

end

/--
Rules do not interfere with each other.  Two lists of rules together report what
they report one after the other, sorted by line and otherwise left in order;
nothing is lost or added, a rule that is registered twice reports everything
twice, and the violations run through the lines of the document from the top.
-/
theorem checkDocument_rules_independent
    (analyzer : Analyzer)
    (file : Path)
    (document : Document)
    (rules others : List Rule) :
    checkDocument { analyzer with rules := rules ++ others } file document =
        (checkDocument { analyzer with rules := rules } file document ++
          checkDocument { analyzer with rules := others } file document).mergeSort
            (fun violation other => violation.location.line ≤ other.location.line) ∧
      (checkDocument { analyzer with rules := rules ++ others } file document).Perm
        (checkDocument { analyzer with rules := rules } file document ++
          checkDocument { analyzer with rules := others } file document) ∧
      (checkDocument { analyzer with rules := rules } file document).Perm
        (rules.flatMap fun rule =>
          checkDocument { analyzer with rules := [rule] } file document) ∧
      (∀ (before between after : List Rule) (rule : Rule) (violation : Violation),
        (checkDocument
            { analyzer with rules := before ++ [rule] ++ between ++ [rule] ++ after }
              file document).count violation =
          (checkDocument { analyzer with rules := before ++ between ++ after }
              file document).count violation +
            2 * (checkDocument { analyzer with rules := [rule] }
              file document).count violation) ∧
      (∀ violation ∈ checkDocument { analyzer with rules := rules ++ others } file document,
        1 ≤ violation.location.line ∧ violation.location.line ≤ document.size) ∧
      (checkDocument { analyzer with rules := rules ++ others } file document).Pairwise
        fun violation later => violation.location.line ≤ later.location.line := by
  refine ⟨checkDocument_append_rules_eq_mergeSort analyzer file document rules others,
    checkDocument_append_rules_perm analyzer file document rules others,
    checkDocument_perm_flatMap_rules analyzer file document rules,
    count_checkDocument_of_twice analyzer file document, ?_,
    checkDocument_pairwise_line _ file document⟩
  intro violation member
  exact ⟨line_pos_of_mem_checkDocument member, line_le_of_mem_checkDocument member⟩

/--
The PHP rule is registered at two severities around the rule on legacy names: both
of its violations at the third line come after the one at the first line.
-/
theorem checkDocument_rules_independent_in_page :
    (checkDocument
        ⟨.ofString "/docs",
          [ExplicitPhpBlock.rule .error, LegacyAdminFile.rule] ++
            [ExplicitPhpBlock.rule .info], [], {}⟩
        "index.rst" (.ofText "admin.yml\n\n  .. code-block:: php".toList)).map
          (fun violation => (violation.location.line, violation.severity)) =
        [(1, .error), (3, .error), (3, .info)] ∧
      (∀ violation ∈
          checkDocument
            ⟨.ofString "/docs",
              [ExplicitPhpBlock.rule .error, LegacyAdminFile.rule] ++
                [ExplicitPhpBlock.rule .info], [], {}⟩
            "index.rst" (.ofText "admin.yml\n\n  .. code-block:: php".toList),
        1 ≤ violation.location.line ∧ violation.location.line ≤ 3) :=
  ⟨by decide,
    (checkDocument_rules_independent ⟨.ofString "/docs", [], [], {}⟩ "index.rst"
      (.ofText "admin.yml\n\n  .. code-block:: php".toList)
      [ExplicitPhpBlock.rule .error, LegacyAdminFile.rule]
      [ExplicitPhpBlock.rule .info]).2.2.2.2.1⟩

end Analyzer

end MarkupLint
