import MarkupLint.Text.WhiteSpace

namespace MarkupLint

/-!
# Lines

A line keeps its characters exactly as they stand in the document, so that
nesting can be measured on them.  What a line says is its `content`, the text
without the white space around it.
-/

/-- One row of a document, its indentation and any line end included. -/
structure Line where
  text : List Char
  deriving Repr, DecidableEq

namespace Line

/-- The line with the given characters. -/
def ofString (raw : String) : Line :=
  ⟨raw.toList⟩

/-- The characters of the line as they stand in the document. -/
def raw (line : Line) : String :=
  String.ofList line.text

/-- The text of the line without the white space around it. -/
def content (line : Line) : List Char :=
  trim line.text

/-- A line is blank when it holds nothing but white space. -/
def isBlank (line : Line) : Bool :=
  line.content.isEmpty

/-- The number of white-space characters at the start of the line. -/
def indentation (line : Line) : Nat :=
  (line.text.takeWhile isWhiteSpace).length

end Line

end MarkupLint
