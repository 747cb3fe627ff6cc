import MarkupLint.Proofs.Text.CaseMapping
import MarkupLint.Proofs.Text.Search
import MarkupLint.Rule.LegacyAdminFile

namespace MarkupLint

/-!
# Which legacy names are reported

A legacy name is to be reported wherever it stands on its own, and not where it ends
the name of the configuration file of the admin bundle.  The rule does not look at
each place: once the longer name stands in a line, it excuses the legacy name in all
of the line.  So it reports nothing it should not, and it misses the lines in which
every legacy name that stands on its own stands in the longer name as well.

The names are looked for in the lower-case form of a line, which does not depend on
the case of its ASCII letters.
-/

namespace LegacyAdminFile

/-- The legacy names of the service file. -/
def forbiddenNames : List String :=
  ["admin.yml", "admin.yaml"]

/-- What comes before a legacy name in the name of the bundle's own file. -/
def bundleStart : String :=
  "sonata_"

/-- The name stands somewhere in the text without the start of the longer name before it. -/
def StandsAlone
    (name : String)
    (text : List Char) : Prop :=
  ∃ before after,
    text = before ++ name.toList ++ after ∧ ¬ bundleStart.toList <:+ before

/-- The name stands somewhere in the text as the end of the longer name. -/
def EndsLongerName
    (name : String)
    (text : List Char) : Prop :=
  ∃ before after,
    text = before ++ name.toList ++ after ∧ bundleStart.toList <:+ before

/-- The longer names in the table are the legacy names with that start. -/
theorem legacyNames_eq :
    legacyNames = forbiddenNames.map fun name => ⟨name, bundleStart ++ name⟩ := by
  rfl

/-- Where a name stands, it stands alone or it ends the longer name. -/
theorem occursIn_iff_standsAlone_or
    {name : String}
    {text : List Char} :
    occursIn name.toList text = true ↔ StandsAlone name text ∨ EndsLongerName name text := by
  rw [occursIn_iff_isInfix]
  constructor
  · intro occurs
    obtain ⟨before, after, shape⟩ := occurs
    by_cases longer : bundleStart.toList <:+ before
    · exact .inr ⟨before, after, shape.symm, longer⟩
    · exact .inl ⟨before, after, shape.symm, longer⟩
  · intro stands
    rcases stands with alone | ends
    · obtain ⟨before, after, shape, -⟩ := alone
      exact ⟨before, after, shape.symm⟩
    · obtain ⟨before, after, shape, -⟩ := ends
      exact ⟨before, after, shape.symm⟩

/-- The longer name stands in a text where the legacy name ends it. -/
theorem occursIn_longer_iff
    {name : String}
    {text : List Char} :
    occursIn (bundleStart ++ name).toList text = true ↔ EndsLongerName name text := by
  rw [occursIn_iff_isInfix, String.toList_append]
  constructor
  · intro occurs
    obtain ⟨before, after, shape⟩ := occurs
    refine ⟨before ++ bundleStart.toList, after, ?_, List.suffix_append _ _⟩
    simp [← shape]
  · intro ends
    obtain ⟨before, after, shape, earlier, isBefore⟩ := ends
    refine ⟨earlier, after, ?_⟩
    simp [shape, ← isBefore]

/-- A name is misused if it stands in the text, and nowhere as the end of the longer name. -/
theorem isMisusedIn_iff_occurs
    {name : String}
    {text : List Char} :
    LegacyName.isMisusedIn ⟨name, bundleStart ++ name⟩ text = true ↔
      name.toList <:+: text ∧ ¬ EndsLongerName name text := by
  rw [LegacyName.isMisusedIn, Bool.and_eq_true, Bool.not_eq_true', ← Bool.not_eq_true,
    occursIn_longer_iff, occursIn_iff_isInfix]

/-- Where a misused name stands, it stands alone. -/
theorem isMisusedIn_iff
    {name : String}
    {text : List Char} :
    LegacyName.isMisusedIn ⟨name, bundleStart ++ name⟩ text = true ↔
      StandsAlone name text ∧ ¬ EndsLongerName name text := by
  rw [isMisusedIn_iff_occurs, ← occursIn_iff_isInfix, occursIn_iff_standsAlone_or]
  constructor
  · intro misused
    obtain ⟨stands, notLonger⟩ := misused
    exact ⟨stands.resolve_right notLonger, notLonger⟩
  · intro misused
    exact ⟨.inl misused.1, misused.2⟩

/-- A line is reported if it misuses one of the names. -/
theorem isSome_check_iff
    {document : Document}
    {index : Nat}
    {line : Line}
    (isLine : document.get? index = some line) :
    (check document index).isSome = true ↔
      ∃ name ∈ forbiddenNames,
        StandsAlone name (lowercase line.text) ∧
          ¬ EndsLongerName name (lowercase line.text) := by
  simp only [check, isLine, Option.isSome_map, List.find?_isSome, legacyNames_eq, List.mem_map]
  constructor
  · intro reported
    obtain ⟨legacyName, ⟨name, member, isName⟩, misused⟩ := reported
    subst isName
    exact ⟨name, member, isMisusedIn_iff.mp misused⟩
  · intro misused
    obtain ⟨name, member, standsAlone⟩ := misused
    exact ⟨_, ⟨name, member, rfl⟩, isMisusedIn_iff.mpr standsAlone⟩

/-- The line mentions a legacy name on its own and is to be reported. -/
def MentionsLegacyName
    (line : Line) : Prop :=
  ∃ name ∈ forbiddenNames, StandsAlone name (lowercase line.text)

/-- What is reported mentions a legacy name. -/
theorem mentionsLegacyName_of_check
    {document : Document}
    {index : Nat}
    {line : Line}
    (isLine : document.get? index = some line)
    (isReported : (check document index).isSome = true) :
    MentionsLegacyName line := by
  obtain ⟨name, member, alone, -⟩ := (isSome_check_iff isLine).mp isReported
  exact ⟨name, member, alone⟩

/--
A line is reported if a legacy name stands on its own in it, in any letter case, and
nowhere as the end of the longer name.  These are the lines that mention a legacy
name, unless the line mentions one and holds the longer name of each one it mentions.
-/
theorem check_reports_unexcused_names
    {document : Document}
    {index : Nat}
    {line : Line}
    (isLine : document.get? index = some line) :
    ((check document index).isSome = true ↔
        ∃ name ∈ forbiddenNames,
          StandsAlone name (lowercase line.text) ∧
            ¬ EndsLongerName name (lowercase line.text)) ∧
      (((check document index).isSome = true ↔ MentionsLegacyName line) ↔
        ¬ (MentionsLegacyName line ∧
          ∀ name ∈ forbiddenNames,
            StandsAlone name (lowercase line.text) →
            EndsLongerName name (lowercase line.text))) := by
  have reported := isSome_check_iff isLine
  refine ⟨reported, ?_, ?_⟩
  · rintro reportsMentioned ⟨mentions, excused⟩
    obtain ⟨name, member, alone, notLonger⟩ := reported.mp (reportsMentioned.mpr mentions)
    exact notLonger (excused name member alone)
  · intro notExcused
    refine ⟨mentionsLegacyName_of_check isLine, fun mentions => reported.mpr ?_⟩
    refine Classical.byContradiction fun noneMisused => notExcused ⟨mentions, ?_⟩
    intro name member alone
    refine Classical.byContradiction fun notLonger => noneMisused ?_
    exact ⟨name, member, alone, notLonger⟩

/-- The longer name with one ending does not excuse the legacy name with the other one. -/
theorem check_reports_unexcused_names_beside_other_ending :
    (check (.ofLines ["Sonata_Admin.yaml, not Admin.YML".toList]) 0).isSome = true := by
  refine
    (check_reports_unexcused_names
      (show Document.get? (.ofLines ["Sonata_Admin.yaml, not Admin.YML".toList]) 0 =
        some ⟨"Sonata_Admin.yaml, not Admin.YML".toList⟩ from rfl)).1.mpr ?_
  refine ⟨"admin.yml", by decide, ⟨"sonata_admin.yaml, not ".toList, [], by decide, by decide⟩, ?_⟩
  rw [← occursIn_longer_iff]
  decide

/-- A line that mentions the legacy name beside the longer one is not reported. -/
theorem check_misses_name_beside_longer_one :
    ¬ ∀ (document : Document) (index : Nat) (line : Line),
        document.get? index = some line →
        ((check document index).isSome = true ↔ MentionsLegacyName line) := by
  intro reportsAll
  have mentions : MentionsLegacyName ⟨"sonata_admin.yml, not admin.yml".toList⟩ :=
    ⟨"admin.yml", by decide, "sonata_admin.yml, not ".toList, [], by decide, by decide⟩
  have isReported :=
    (reportsAll (.ofLines ["sonata_admin.yml, not admin.yml".toList]) 0 _ rfl).mpr mentions
  revert isReported
  decide

/-! ## Which name is reported, and in which letter case -/

/-- A message tells which name was found. -/
theorem message_injective :
    Function.Injective message := by
  intro name other same
  unfold message at same
  have sameStart := (String.append_left_inj _).mp same
  exact (String.append_right_inj _).mp sameStart

/-- The name that a line is reported for is the first one that it misuses. -/
theorem check_eq_message_iff_first
    {document : Document}
    {index : Nat}
    {name : String} :
    check document index = some (message name) ↔
      ∃ line,
        document.get? index = some line ∧
          ∃ entry,
            legacyNames.find? (·.isMisusedIn (lowercase line.text)) = some entry ∧
              entry.legacy = name := by
  unfold check
  cases document.get? index with
  | none =>
      simp
  | some line =>
      simp [Option.map_eq_some_iff, message_injective.eq_iff]

/-- Only the legacy names are reported. -/
theorem exists_forbidden_of_check
    {document : Document}
    {index : Nat}
    {report : String}
    (reported : check document index = some report) :
    ∃ name ∈ forbiddenNames, report = message name := by
  unfold check at reported
  split at reported
  · cases reported
  · obtain ⟨entry, found, rfl⟩ := Option.map_eq_some_iff.mp reported
    have member := List.mem_of_find?_eq_some found
    rw [legacyNames_eq, List.mem_map] at member
    obtain ⟨name, isName, rfl⟩ := member
    exact ⟨name, isName, rfl⟩

/-- The longer name stands nowhere if no place of the legacy name is behind its start. -/
theorem not_endsLongerName_iff
    {name : String}
    {text : List Char} :
    ¬ EndsLongerName name text ↔
      ∀ before after,
        text = before ++ name.toList ++ after →
        ¬ bundleStart.toList <:+ before := by
  simp only [EndsLongerName, not_exists, not_and]

/-- A name is not misused in a text that lacks it or holds the longer name. -/
theorem isMisusedIn_eq_false_iff
    {name : LegacyName}
    {text : List Char} :
    name.isMisusedIn text = false ↔
      ¬ name.legacy.toList <:+: text ∨ name.allowed.toList <:+: text := by
  rw [LegacyName.isMisusedIn, Bool.and_eq_false_iff, Bool.not_eq_false', ← Bool.not_eq_true,
    occursIn_iff_isInfix, occursIn_iff_isInfix]

/-- The second name is reported only where the first one is not misused. -/
theorem find?_isMisusedIn_iff
    {name : String}
    {text : List Char}
    (isName : name ∈ forbiddenNames) :
    (∃ entry, legacyNames.find? (·.isMisusedIn text) = some entry ∧ entry.legacy = name) ↔
      LegacyName.isMisusedIn ⟨name, bundleStart ++ name⟩ text = true ∧
        (name = "admin.yaml" →
          LegacyName.isMisusedIn ⟨"admin.yml", "sonata_admin.yml"⟩ text = false) := by
  have isFirst :
      LegacyName.isMisusedIn ⟨"admin.yml", bundleStart ++ "admin.yml"⟩ text =
        LegacyName.isMisusedIn ⟨"admin.yml", "sonata_admin.yml"⟩ text :=
    rfl
  simp only [forbiddenNames, List.mem_cons, List.not_mem_nil, or_false] at isName
  rw [legacyNames_eq, forbiddenNames, List.map_cons, List.map_cons, List.map_nil]
  cases first : LegacyName.isMisusedIn ⟨"admin.yml", bundleStart ++ "admin.yml"⟩ text with
  | true =>
      rw [List.find?_cons_of_pos (by simp [first])]
      rcases isName with rfl | rfl <;>
        simp [first, ← isFirst]
  | false =>
      rw [List.find?_cons_of_neg (by simp [first])]
      cases second : LegacyName.isMisusedIn ⟨"admin.yaml", bundleStart ++ "admin.yaml"⟩ text with
      | true =>
          rw [List.find?_cons_of_pos (by simp [second])]
          rcases isName with rfl | rfl <;>
            simp [first, second, ← isFirst]
      | false =>
          rw [List.find?_cons_of_neg (by simp [second])]
          rcases isName with rfl | rfl <;>
            simp [first, second]

/-- The case of ASCII letters makes no difference to what is reported for a line. -/
theorem check_eq_of_sameInAnyCase
    {document other : Document}
    {index otherIndex : Nat}
    {line otherLine : Line}
    (isLine : document.get? index = some line)
    (isOtherLine : other.get? otherIndex = some otherLine)
    (same : SameInAnyCase line.text otherLine.text) :
    check document index = check other otherIndex := by
  simp only [check, isLine, isOtherLine, lowercase_eq_of_sameInAnyCase same]

/--
A line is reported under a legacy name exactly if the name stands in its lower-case
form, and nowhere there behind the start of the longer name; the second name is
reported only if the first one is missing or excused.  Nothing else is reported, and
lines that differ in the case of ASCII letters only are reported alike.  The
lower-case form is that of the whole text, with a capital sigma read in its word.
-/
theorem check_names_unexcused_in_any_case
    (document : Document)
    (index : Nat) :
    (∀ name ∈ forbiddenNames,
      check document index = some (message name) ↔
        ∃ line,
          document.get? index = some line ∧
            name.toList <:+: lowercase line.text ∧
            (∀ before after,
              lowercase line.text = before ++ name.toList ++ after →
              ¬ bundleStart.toList <:+ before) ∧
            (name = "admin.yaml" →
              ¬ "admin.yml".toList <:+: lowercase line.text ∨
                "sonata_admin.yml".toList <:+: lowercase line.text)) ∧
    (∀ report,
      check document index = some report →
      ∃ name ∈ forbiddenNames, report = message name) ∧
    (∀ other otherIndex line otherLine,
      document.get? index = some line →
      Document.get? other otherIndex = some otherLine →
      SameInAnyCase line.text otherLine.text →
      check document index = check other otherIndex) ∧
    (∀ text, IsLowercaseOf (lowercase text) text) := by
  refine ⟨?_, ?_, ?_, lowercase_isLowercaseOf⟩
  · intro name isName
    rw [check_eq_message_iff_first]
    simp only [find?_isMisusedIn_iff isName, isMisusedIn_iff_occurs, not_endsLongerName_iff,
      isMisusedIn_eq_false_iff, and_assoc]
  · intro report
    exact exists_forbidden_of_check
  · intro other otherIndex line otherLine
    exact check_eq_of_sameInAnyCase

/-- The same name in two letter cases, behind a sigma that ends a word of ASCII letters. -/
theorem check_names_unexcused_in_any_case_behind_sigma :
    check (.ofLines ["OΣ: Admin.YAML".toList]) 0 = some (message "admin.yaml") ∧
      check (.ofLines ["oΣ: aDMIN.yaml".toList]) 0 = some (message "admin.yaml") := by
  obtain ⟨named, -, inAnyCase, -⟩ :=
    check_names_unexcused_in_any_case (.ofLines ["OΣ: Admin.YAML".toList]) 0
  have reported :
      check (.ofLines ["OΣ: Admin.YAML".toList]) 0 = some (message "admin.yaml") := by
    refine (named "admin.yaml" (by decide)).mpr
      ⟨⟨"OΣ: Admin.YAML".toList⟩, rfl, ⟨"oς: ".toList, [], by decide +kernel⟩, ?_, ?_⟩
    · rw [← not_endsLongerName_iff, ← occursIn_longer_iff]
      decide +kernel
    · intro _
      rw [← occursIn_iff_isInfix]
      exact .inl (by decide +kernel)
  have same : SameInAnyCase "OΣ: Admin.YAML".toList "oΣ: aDMIN.yaml".toList := by
    unfold SameInAnyCase
    decide +kernel
  have reportedAlike :=
    inAnyCase (.ofLines ["oΣ: aDMIN.yaml".toList]) 0 ⟨_⟩ ⟨_⟩ rfl rfl same
  exact ⟨reported, reportedAlike.symm.trans reported⟩

end LegacyAdminFile

end MarkupLint
