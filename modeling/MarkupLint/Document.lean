import MarkupLint.Line

namespace MarkupLint

/-!
# Documents

A document is the list of its lines.  A text is cut at each line feed; one
carriage return right before the line feed belongs to the line end, and a line
feed at the very end opens no further line.
-/

/-- The rows of a text without their line ends. -/
def rows : List Char → List (List Char)
  | [] => []
  | '\n' :: rest => [] :: rows rest
  | '\r' :: '\n' :: rest => [] :: rows rest
  | character :: rest =>
      match rows rest with
      | [] => [[character]]
      | row :: following => (character :: row) :: following

/-- An ordered list of lines. -/
structure Document where
  lines : List Line
  deriving Repr, DecidableEq

namespace Document

/-- The document whose lines have the given characters. -/
def ofLines (texts : List (List Char)) : Document :=
  ⟨texts.map Line.mk⟩

/-- The document written in a text. -/
def ofText (text : List Char) : Document :=
  ofLines (rows text)

/-- The number of lines. -/
def size (document : Document) : Nat :=
  document.lines.length

/-- The line at an index, counted from zero. -/
def get? (document : Document) (index : Nat) : Option Line :=
  document.lines[index]?

/-- The lines above an index with their own indices, nearest first. -/
def linesBefore (document : Document) (index : Nat) : List (Line × Nat) :=
  (document.lines.take index).zipIdx.reverse

end Document

end MarkupLint
