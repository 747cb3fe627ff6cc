import MarkupLint.Proofs.Directive.Grammar
import MarkupLint.Proofs.LineClass

namespace MarkupLint

/-!
# The grammar of link definitions

A link definition is written

```text
.. _target:  link
```

where the target is a bare name or a text in backquotes and the blank stands for
some white space.  `LinkForm` is such a text taken apart, down to the first
character of the link; whatever follows belongs to the link.

No text can be taken apart in two ways.  A quoted target ends at its second
backquote and a bare one at the first colon, so that a target with a backquote
on one side only is no target at all.
-/

/-- The target of a link definition: a bare name, or a text in backquotes. -/
inductive LinkTarget where
  | bare
      (name : List Char)
      (nonEmpty : name ≠ [])
      (startsVisible : Stops isWhiteSpace name)
      (quoteFree : '\x60' ∉ name)
      (colonFree : ':' ∉ name)
  | quoted
      (label : List Char)
      (nonEmpty : label ≠ [])
      (quoteFree : '\x60' ∉ label)

/-- A target as it is written. -/
def LinkTarget.written : LinkTarget → List Char
  | bare name _ _ _ _ => name
  | quoted label _ _ => '\x60' :: (label ++ ['\x60'])

/-- A link definition taken apart. -/
@[ext] structure LinkForm where
  target : LinkTarget
  gap : Gap
  link : List Char
  nonEmpty : link ≠ []
  startsVisible : Stops isWhiteSpace link

/-- The text of a link definition. -/
def LinkForm.text
    (form : LinkForm) :
    List Char :=
  ['.', '.', ' ', '_'] ++
    (form.target.written ++ ':' :: (form.gap.text ++ form.link))

/-! ## Reading a target -/

namespace Line

theorem isTargetCharacter_iff
    {character : Char} :
    isTargetCharacter character = true ↔ character ≠ '\x60' ∧ character ≠ ':' := by
  simp [isTargetCharacter]

theorem isTargetStart_iff
    {character : Char} :
    isTargetStart character = true ↔
      isTargetCharacter character = true ∧ isWhiteSpace character = false := by
  simp [isTargetStart, isTargetCharacter]

/-- A bare target is a run of target characters. -/
theorem isTargetCharacter_of_bare
    {name : List Char}
    (quoteFree : '\x60' ∉ name)
    (colonFree : ':' ∉ name) :
    ∀ character ∈ name, isTargetCharacter character = true := by
  intro character member
  apply isTargetCharacter_iff.mpr
  constructor
  · rintro rfl
    exact quoteFree member
  · rintro rfl
    exact colonFree member

theorem afterTarget?_written
    (target : LinkTarget)
    (rest : List Char) :
    afterTarget? (target.written ++ ':' :: rest) = some (':' :: rest) := by
  cases target with
  | bare name nonEmpty startsVisible quoteFree colonFree =>
      have inside := isTargetCharacter_of_bare quoteFree colonFree
      obtain ⟨first, more, rfl⟩ := List.exists_cons_of_ne_nil nonEmpty
      have isStart : isTargetStart first = true :=
        isTargetStart_iff.mpr ⟨inside first (by simp), by simpa using startsVisible⟩
      have moreInside : ∀ character ∈ more, isTargetCharacter character = true :=
        fun character member => inside character (by simp [member])
      have cut :=
        longestRun_iff.mpr
          ⟨(rfl : more ++ ':' :: rest = _), moreInside, (stops_cons _ _ _).mpr (by decide)⟩
      rw [LinkTarget.written, List.cons_append, afterTarget?, if_pos isStart, cut.2]
      exact (isTargetCharacter_iff.mp (inside first (by simp))).1
  | quoted label nonEmpty quoteFree =>
      have inside := forall_bne_iff_not_mem.mpr quoteFree
      have cut : afterRun? (· != '\x60') (label ++ '\x60' :: ':' :: rest) = _ :=
        afterRun?_eq_some_iff.mpr ⟨label, rfl, nonEmpty, inside, by simp⟩
      simp [LinkTarget.written, afterTarget?, cut]

/-- What is read in front of a colon is a target. -/
theorem exists_target_of_afterTarget?
    {text rest : List Char}
    (read : afterTarget? text = some (':' :: rest)) :
    ∃ target : LinkTarget, text = target.written ++ ':' :: rest := by
  unfold afterTarget? at read
  split at read
  · cases read
  · split at read
    · rename_i behind cut
      obtain rfl := Option.some.inj read
      obtain ⟨label, rfl, nonEmpty, inside, -⟩ := afterRun?_eq_some_iff.mp cut
      exact ⟨.quoted label nonEmpty (forall_bne_iff_not_mem.mp inside),
        by simp [LinkTarget.written]⟩
    · cases read
  · rename_i first more notQuote
    split at read
    · rename_i isStart
      obtain ⟨isFirst, visible⟩ := isTargetStart_iff.mp isStart
      obtain ⟨shape, inside, -⟩ :=
        longestRun_iff.mp
          (⟨rfl, Option.some.inj read⟩ : more.takeWhile isTargetCharacter = _ ∧ _)
      have allInside :
          ∀ character ∈ first :: more.takeWhile isTargetCharacter,
            character ≠ '\x60' ∧ character ≠ ':' := by
        intro character member
        apply isTargetCharacter_iff.mp
        rcases List.mem_cons.mp member with rfl | inMore
        · exact isFirst
        · exact inside character inMore
      refine ⟨.bare (first :: more.takeWhile isTargetCharacter) (List.cons_ne_nil _ _)
        ((stops_cons _ _ _).mpr visible) (fun member => (allInside _ member).1 rfl)
        (fun member => (allInside _ member).2 rfl), ?_⟩
      rw [LinkTarget.written, List.cons_append, ← shape]
    · cases read

theorem isLinkDestination_iff
    {text : List Char} :
    isLinkDestination text = true ↔
      ∃ (gap : Gap) (link : List Char),
        text = ':' :: (gap.text ++ link) ∧ link ≠ [] ∧ Stops isWhiteSpace link := by
  constructor
  · intro isDestination
    unfold isLinkDestination at isDestination
    split at isDestination
    · split at isDestination
      · rename_i first more skipped
        obtain ⟨gap, rfl, startsVisible⟩ := afterWhiteSpace?_eq_some_iff.mp skipped
        exact ⟨gap, first :: more, rfl, List.cons_ne_nil _ _, startsVisible⟩
      · cases isDestination
    · cases isDestination
  · rintro ⟨gap, link, rfl, nonEmpty, startsVisible⟩
    obtain ⟨first, more, rfl⟩ := List.exists_cons_of_ne_nil nonEmpty
    have skipped := afterWhiteSpace?_eq_some_iff.mpr ⟨gap, rfl, startsVisible⟩
    simp only [isLinkDestination, skipped]

/-- A line defines a link exactly when its content has a form. -/
theorem isLinkDefinition_iff
    {line : Line} :
    line.isLinkDefinition = true ↔ ∃ form : LinkForm, form.text = line.content := by
  constructor
  · intro isLink
    unfold isLinkDefinition at isLink
    split at isLink
    · cases isLink
    · rename_i destination read
      obtain ⟨gap, link, rfl, nonEmpty, startsVisible⟩ := isLinkDestination_iff.mp isLink
      obtain ⟨behind, startCut, targetRead⟩ := Option.bind_eq_some_iff.mp read
      obtain ⟨target, rfl⟩ := exists_target_of_afterTarget? targetRead
      exact ⟨⟨target, gap, link, nonEmpty, startsVisible⟩,
        (afterStart?_eq_some_iff.mp startCut).symm⟩
  · rintro ⟨form, shape⟩
    have startCut : afterStart? ".. _".toList line.content = _ :=
      afterStart?_eq_some_iff.mpr shape.symm
    have isDestination :=
      isLinkDestination_iff.mpr
        ⟨form.gap, form.link, rfl, form.nonEmpty, form.startsVisible⟩
    simp only [isLinkDefinition, startCut, Option.bind_some, afterTarget?_written,
      isDestination]

end Line

/-! ## A text has at most one form -/

theorem LinkTarget.written_injective :
    Function.Injective written := by
  intro target other same
  cases target with
  | bare name _ _ quoteFree _ =>
      cases other with
      | bare otherName =>
          obtain rfl : name = otherName := same
          rfl
      | quoted label =>
          obtain rfl : name = '\x60' :: (label ++ ['\x60']) := same
          exact (quoteFree (by simp)).elim
  | quoted label =>
      cases other with
      | bare name _ _ quoteFree _ =>
          obtain rfl : '\x60' :: (label ++ ['\x60']) = name := same
          exact (quoteFree (by simp)).elim
      | quoted otherLabel =>
          obtain rfl : label = otherLabel :=
            List.append_cancel_right (List.cons.inj same).2
          rfl

/--
A text can be taken apart in at most one way.  The reader of targets finds the end of
both targets, so they end at the same place.
-/
theorem LinkForm.text_injective :
    Function.Injective LinkForm.text := by
  intro form other same
  have afterStart := List.append_cancel_left same
  have read := Line.afterTarget?_written form.target (form.gap.text ++ form.link)
  rw [afterStart, Line.afterTarget?_written] at read
  have sameRest := (Option.some.inj read).symm
  rw [sameRest] at afterStart
  obtain ⟨sameGap, sameLink⟩ :=
    Gap.cut_unique (List.cons.inj sameRest).2 form.startsVisible other.startsVisible
  exact LinkForm.ext
    (LinkTarget.written_injective (List.append_cancel_right afterStart)) sameGap sameLink

/-! ## Backquotes on one side only -/

/-- A backquote in a target is its first or its last character. -/
theorem LinkTarget.quote_at_border
    {target : LinkTarget}
    {before after : List Char}
    (shape : target.written = before ++ '\x60' :: after) :
    before = [] ∨ after = [] := by
  cases target with
  | bare name _ _ quoteFree _ =>
      obtain rfl : name = before ++ '\x60' :: after := shape
      exact (quoteFree (by simp)).elim
  | quoted label _ quoteFree =>
      rcases before with - | ⟨first, inner⟩
      · exact .inl rfl
      · rcases List.eq_nil_or_concat after with rfl | ⟨most, last, rfl⟩
        · exact .inr rfl
        · have behindFirst : label ++ ['\x60'] = (inner ++ '\x60' :: most) ++ [last] := by
            simpa [written] using (List.cons.inj shape).2
          have labelShape := (List.append_inj' behindFirst rfl).1
          exact (quoteFree (by simp [labelShape])).elim

/--
No link definition begins with a mark that holds one backquote and no colon, if
no other backquote follows.
-/
theorem LinkForm.text_append_ne_of_lone_quote
    (form : LinkForm)
    {mark rest : List Char}
    (loneQuote : mark.count '\x60' = 1)
    (colonFree : ':' ∉ mark)
    (quoteFree : '\x60' ∉ rest)
    (trailing : List Char) :
    form.text ++ trailing ≠ ['.', '.', ' ', '_'] ++ (mark ++ ':' :: ' ' :: rest) := by
  intro same
  have behindStart :
      form.target.written ++ ':' :: (form.gap.text ++ (form.link ++ trailing)) =
        mark ++ ':' :: ' ' :: rest := by
    rw [LinkForm.text, List.append_assoc] at same
    simpa only [List.append_assoc, List.cons_append] using List.append_cancel_left same
  cases target : form.target with
  | bare name _ _ nameQuoteFree nameColonFree =>
      rw [target] at behindStart
      obtain ⟨sameMark, -⟩ : name = mark ∧ _ :=
        longestRun_unique behindStart (forall_bne_iff_not_mem.mpr nameColonFree)
          (forall_bne_iff_not_mem.mpr colonFree) (by simp) (by simp)
      rw [← sameMark, List.count_eq_zero.mpr nameQuoteFree] at loneQuote
      cases loneQuote
  | quoted label =>
      rw [target] at behindStart
      have counts := congrArg (List.count '\x60') behindStart
      simp only [LinkTarget.written, List.count_append, List.count_cons, loneQuote,
        List.count_eq_zero.mpr quoteFree] at counts
      simp at counts
      omega

namespace Line

/--
White space around such a text does not make it a link definition.  The text starts with
a dot, so that trimming takes from its end only.
-/
theorem isLinkDefinition_eq_false_of_lone_quote
    {line : Line}
    {mark rest : List Char}
    (loneQuote : mark.count '\x60' = 1)
    (colonFree : ':' ∉ mark)
    (quoteFree : '\x60' ∉ rest)
    (content : line.content = trim (['.', '.', ' ', '_'] ++ (mark ++ ':' :: ' ' :: rest))) :
    line.isLinkDefinition = false := by
  rw [← Bool.not_eq_true, isLinkDefinition_iff]
  rintro ⟨form, shape⟩
  obtain ⟨trailing, split, -⟩ :=
    trimStart_eq_trim_append (['.', '.', ' ', '_'] ++ (mark ++ ':' :: ' ' :: rest))
  rw [← content, ← shape] at split
  exact form.text_append_ne_of_lone_quote loneQuote colonFree quoteFree trailing split.symm

/--
Link definitions are read by an unambiguous grammar: a line defines a link exactly
when its content is the text of a form, of which there is at most one.  A name
with a backquote on one side only never makes a definition, and a target holds no
backquotes but the two around it.
-/
theorem isLinkDefinition_iff_grammar :
    (∀ line : Line,
      line.isLinkDefinition = true ↔ ∃ form : LinkForm, form.text = line.content) ∧
      Function.Injective LinkForm.text ∧
      (∀ (line : Line) (name rest : List Char),
        '\x60' ∉ name →
        ':' ∉ name →
        '\x60' ∉ rest →
        line.content = trim (".. _`".toList ++ (name ++ (": ".toList ++ rest))) ∨
          line.content = trim (".. _".toList ++ (name ++ ("`: ".toList ++ rest))) →
        line.isLinkDefinition = false) ∧
      (∀ (form : LinkForm) (before after : List Char),
        form.target.written = before ++ '\x60' :: after →
        before = [] ∨ after = []) := by
  refine ⟨fun _ => isLinkDefinition_iff, LinkForm.text_injective, ?_,
    fun _ _ _ => LinkTarget.quote_at_border⟩
  intro line name rest nameQuoteFree nameColonFree quoteFree content
  have noQuotes := List.count_eq_zero.mpr nameQuoteFree
  rcases content with opened | closed
  · have loneQuote : ('\x60' :: name).count '\x60' = 1 := by
      simp [noQuotes]
    exact isLinkDefinition_eq_false_of_lone_quote loneQuote (by simp [nameColonFree]) quoteFree
      opened
  · have loneQuote : (name ++ ['\x60']).count '\x60' = 1 := by
      simp [noQuotes]
    apply isLinkDefinition_eq_false_of_lone_quote loneQuote (by simp [nameColonFree]) quoteFree
    rw [closed, List.append_assoc]
    rfl

/-- A name with one backquote defines nothing; a quoted label may hold a colon and a space. -/
theorem isLinkDefinition_iff_grammar_at_backquotes :
    ('\x60' ∉ "APCu".toList ∧ ':' ∉ "APCu".toList ∧ '\x60' ∉ "apcu.html".toList) ∧
      (ofString ".. _`APCu: apcu.html").isLinkDefinition = false ∧
      (ofString ".. _APCu`: apcu.html").isLinkDefinition = false ∧
      (∃ form : LinkForm, form.text = (ofString "  .. _`a: b`: c ").content) := by
  have names :
      '\x60' ∉ "APCu".toList ∧ ':' ∉ "APCu".toList ∧ '\x60' ∉ "apcu.html".toList := by
    decide
  obtain ⟨grammar, -, loneQuotes, -⟩ := isLinkDefinition_iff_grammar
  refine ⟨names, ?_, ?_, (grammar _).mp (by decide)⟩
  · exact loneQuotes _ "APCu".toList "apcu.html".toList names.1 names.2.1 names.2.2
      (.inl rfl)
  · exact loneQuotes _ "APCu".toList "apcu.html".toList names.1 names.2.1 names.2.2
      (.inr rfl)

end Line

end MarkupLint
