import MarkupLint.Proofs.LineEnds
import MarkupLint.Proofs.Pieces
import MarkupLint.Proofs.Text.LossyUtf8

namespace MarkupLint

/-!
# Line numbers in files

A file is a list of bytes, and the lines of its document are counted in the decoded
text.  Both ways of counting agree for every file, valid or not: a file can be cut
behind any byte 0x0A into two files whose documents make up the document of the whole.
So a violation in line `n + 1` is about the bytes between the `n`-th line feed of the
file and the next one.
-/

/-! ## Cutting a text behind a line feed -/

/-- The text of a line before its line feed; one carriage return belongs to the line end. -/
def withoutReturn
    (text : List Char) :
    List Char :=
  if text.getLast? = some '\r' then
    text.dropLast
  else
    text

/-- The characters up to the first line feed are read as one row. -/
theorem rows_append_lineFeed
    {line : List Char}
    (noLineFeed : '\n' ∉ line)
    (rest : List Char) :
    rows (line ++ '\n' :: rest) = withoutReturn line :: rows rest := by
  unfold withoutReturn
  by_cases isReturn : line.getLast? = some '\r'
  · obtain ⟨leading, rfl⟩ := List.getLast?_eq_some_iff.mp isReturn
    have leadingNoLineFeed : '\n' ∉ leading :=
      fun member => noLineFeed (List.mem_append_left _ member)
    have endRows : rows ('\r' :: '\n' :: rest) = [] :: rows rest := rfl
    have lineRows := rows_append leadingNoLineFeed (by simp) endRows
    rw [if_pos isReturn, List.dropLast_concat, List.append_assoc]
    rwa [List.append_nil] at lineRows
  · rw [if_neg isReturn]
    exact rows_append_lineEnd noLineFeed isReturn .lineFeed rest

/--
A text can be cut behind any line feed.  The induction is on the length of the text
above, of which the first row is split off.
-/
theorem rows_cut_at_lineFeed
    (above below : List Char) :
    rows (above ++ '\n' :: below) = rows (above ++ ['\n']) ++ rows below := by
  induction isSize : above.length using Nat.strongRecOn generalizing above with
  | ind size inductionHypothesis =>
      by_cases feeds : '\n' ∈ above
      · obtain ⟨line, rest, rfl, noLineFeed⟩ := List.eq_append_cons_of_mem feeds
        have isShorter : rest.length < size := by
          rw [← isSize, List.length_append, List.length_cons]
          omega
        rw [List.append_assoc, List.append_assoc, List.cons_append, List.cons_append,
          rows_append_lineFeed noLineFeed, rows_append_lineFeed noLineFeed,
          inductionHypothesis rest.length isShorter rest rfl, List.cons_append]
      · rw [rows_append_lineFeed feeds, rows_append_lineFeed feeds]
        rfl

/-! ## The document of a file -/

namespace Document

/-- The document in a file with the given bytes. -/
def ofBytes
    (bytes : List UInt8) :
    Document :=
  ofText (Utf8.decodeLossy bytes)

theorem lines_ofBytes
    (bytes : List UInt8) :
    (ofBytes bytes).lines = (rows (Utf8.decodeLossy bytes)).map Line.mk := by
  rfl

/-- A file can be cut behind any line feed. -/
theorem lines_ofBytes_append
    (above below : List UInt8) :
    (ofBytes (above ++ Utf8.lineFeed :: below)).lines =
      (ofBytes (above ++ [Utf8.lineFeed])).lines ++ (ofBytes below).lines := by
  rw [lines_ofBytes, lines_ofBytes, lines_ofBytes, Utf8.decodeLossy_append_lineFeed,
    Utf8.decodeLossy_append_lineFeed, rows_cut_at_lineFeed, List.map_append]
  rfl

/-- The bytes of one row of a file, with those before and after it. -/
structure IsRowOf
    (bytes before row after : List UInt8) : Prop where
  whole :
    bytes = before ++ row ++ after
  startsRow :
    before = [] ∨ before.getLast? = some Utf8.lineFeed
  inRow :
    Utf8.lineFeed ∉ row
  endsRow :
    after = [] ∨ after.head? = some Utf8.lineFeed

/-- The line that a row of bytes makes up; a carriage return counts only before a line feed. -/
def lineOfRow
    (row after : List UInt8) :
    Line :=
  if after = [] then
    ⟨Utf8.decodeLossy row⟩
  else
    ⟨withoutReturn (Utf8.decodeLossy row)⟩

theorem lines_ofBytes_row
    {row : List UInt8}
    (inRow : Utf8.lineFeed ∉ row)
    (rest : List UInt8) :
    (ofBytes (row ++ Utf8.lineFeed :: rest)).lines =
      ⟨withoutReturn (Utf8.decodeLossy row)⟩ :: (ofBytes rest).lines := by
  rw [lines_ofBytes, Utf8.decodeLossy_append_lineFeed,
    rows_append_lineFeed (Utf8.lineFeed_not_mem_decodeLossy inRow)]
  rfl

theorem lines_ofBytes_lastRow
    {row : List UInt8}
    (inRow : Utf8.lineFeed ∉ row)
    {index : Nat}
    (isIndex : index < (ofBytes row).size) :
    index = 0 ∧ (ofBytes row).get? 0 = some ⟨Utf8.decodeLossy row⟩ := by
  have notEmpty : Utf8.decodeLossy row ≠ [] := by
    intro empty
    simp [size, lines_ofBytes, empty, rows] at isIndex
  have oneRow := rows_unfinished (Utf8.lineFeed_not_mem_decodeLossy inRow) notEmpty
  have oneLine : (ofBytes row).lines = [⟨Utf8.decodeLossy row⟩] := by
    rw [lines_ofBytes, oneRow]
    rfl
  rw [size, oneLine, List.length_singleton] at isIndex
  exact ⟨Nat.lt_one_iff.mp isIndex, by rw [get?, oneLine]; rfl⟩

/-- The line at an index is a row of bytes with as many line feeds before it. -/
theorem exists_row_of_lt_size
    {bytes : List UInt8}
    {index : Nat}
    (isIndex : index < (ofBytes bytes).size) :
    ∃ before row after,
      IsRowOf bytes before row after ∧
        before.count Utf8.lineFeed = index ∧
        (ofBytes bytes).get? index = some (lineOfRow row after) := by
  induction index generalizing bytes with
  | zero =>
      by_cases feeds : Utf8.lineFeed ∈ bytes
      · obtain ⟨row, rest, rfl, inRow⟩ := List.eq_append_cons_of_mem feeds
        refine ⟨[], row, Utf8.lineFeed :: rest, ⟨rfl, .inl rfl, inRow, .inr rfl⟩, rfl, ?_⟩
        rw [get?, lines_ofBytes_row inRow]
        rfl
      · obtain ⟨-, isLine⟩ := lines_ofBytes_lastRow feeds isIndex
        exact ⟨[], bytes, [], ⟨by simp, .inl rfl, feeds, .inl rfl⟩, rfl, isLine⟩
  | succ index inductionHypothesis =>
      by_cases feeds : Utf8.lineFeed ∈ bytes
      · obtain ⟨first, rest, rfl, inFirst⟩ := List.eq_append_cons_of_mem feeds
        have restIndex : index < (ofBytes rest).size := by
          rw [size, lines_ofBytes_row inFirst, List.length_cons] at isIndex
          exact Nat.lt_of_succ_lt_succ isIndex
        obtain ⟨before, row, after, isRow, counted, isLine⟩ := inductionHypothesis restIndex
        refine ⟨first ++ Utf8.lineFeed :: before, row, after, ?_, ?_, ?_⟩
        · refine ⟨by simp [isRow.whole], .inr ?_, isRow.inRow, isRow.endsRow⟩
          rcases isRow.startsRow with rfl | endsInFeed
          · simp
          · simp [List.getLast?_append, List.getLast?_cons, endsInFeed]
        · rw [List.count_append, List.count_cons_self, List.count_eq_zero.mpr inFirst, counted,
            Nat.zero_add]
        · rw [get?, lines_ofBytes_row inFirst, List.getElem?_cons_succ]
          exact isLine
      · obtain ⟨impossible, -⟩ := lines_ofBytes_lastRow feeds isIndex
        cases impossible

end Document

namespace Analyzer

theorem checkFile_eq_checkDocument
    (analyzer : Analyzer)
    (file : WalkedFile) :
    analyzer.checkFile file =
      analyzer.checkDocument (analyzer.label file.names) (Document.ofBytes file.bytes) := by
  rfl

/--
Line numbers are right in every file, valid UTF-8 or not.  Cutting the file behind a
line feed cuts its document there; decoding makes no line feeds and loses none; and the
line of a violation is one more than the number of line feeds before the row of bytes
that it is about.
-/
theorem line_numbers_count_lineFeeds :
    (∀ above below,
      (Document.ofBytes (above ++ Utf8.lineFeed :: below)).lines =
        (Document.ofBytes (above ++ [Utf8.lineFeed])).lines ++
          (Document.ofBytes below).lines) ∧
    (∀ bytes, (Utf8.decodeLossy bytes).count '\n' = bytes.count Utf8.lineFeed) ∧
    ∀ (analyzer : Analyzer) (file : WalkedFile),
      ∀ violation ∈ analyzer.checkFile file,
        ∃ before row after,
          Document.IsRowOf file.bytes before row after ∧
            violation.location.line = before.count Utf8.lineFeed + 1 ∧
            (Document.ofBytes file.bytes).get? (before.count Utf8.lineFeed) =
              some (Document.lineOfRow row after) ∧
            ∃ rule ∈ analyzer.activeRules,
              rule.check (Document.ofBytes file.bytes) (before.count Utf8.lineFeed) =
                some violation.message := by
  refine ⟨Document.lines_ofBytes_append, Utf8.count_lineFeed_decodeLossy, ?_⟩
  intro analyzer file violation reported
  rw [checkFile_eq_checkDocument] at reported
  obtain ⟨index, isIndex, found⟩ := List.mem_flatMap.mp reported
  obtain ⟨before, row, after, isRow, rfl, isLine⟩ :=
    Document.exists_row_of_lt_size (List.mem_range.mp isIndex)
  obtain ⟨rule, active, checked⟩ := List.mem_filterMap.mp found
  obtain ⟨message, isMessage, rfl⟩ := Option.map_eq_some_iff.mp checked
  exact ⟨before, row, after, isRow, rfl, isLine, rule, active, isMessage⟩

/--
A file with a cut-off sequence before each of its line feeds, one of them after a
carriage return, and with an overlong form of a line feed in its last row.
-/
def brokenFile : WalkedFile where
  names := ["index.rst"]
  contents :=
    some
      ([0xE2, 0x82, 0x0A, 0xF0, 0x9F, 0x98, 0x0D, 0x0A, 0xC0, 0x8A] ++
        Utf8.encode "admin.yml".toList)

theorem line_numbers_count_lineFeeds_in_broken_file :
    ∃ violation ∈ checkFile ⟨.ofString "/docs", Rule.catalogue, [], {}⟩ brokenFile,
      violation.location.line = 3 ∧
        ∃ before row after,
          Document.IsRowOf brokenFile.bytes before row after ∧
            before.count Utf8.lineFeed = 2 ∧
            (Document.ofBytes brokenFile.bytes).get? 2 =
              some (Document.lineOfRow row after) := by
  have reported :
      checkFile ⟨.ofString "/docs", Rule.catalogue, [], {}⟩ brokenFile =
        [⟨"RST002", "no-admin-yaml", .error, ⟨"index.rst", 3⟩,
          "Please use \"services.yaml\" instead of \"admin.yml\""⟩] := by
    decide +kernel
  refine ⟨_, by rw [reported]; exact List.mem_singleton_self _, rfl, ?_⟩
  obtain ⟨before, row, after, isRow, isLineNumber, isLine, -⟩ :=
    line_numbers_count_lineFeeds.2.2 ⟨.ofString "/docs", Rule.catalogue, [], {}⟩ brokenFile _
      (by rw [reported]; exact List.mem_singleton_self _)
  have counted : before.count Utf8.lineFeed = 2 :=
    (Nat.succ.inj isLineNumber).symm
  exact ⟨before, row, after, isRow, counted, counted ▸ isLine⟩

end Analyzer

end MarkupLint
