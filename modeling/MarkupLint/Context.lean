import MarkupLint.Document
import MarkupLint.LineClass

namespace MarkupLint

/-!
# Context of a line

What stands above a line decides how it is read: whether it directly follows a
title, and which directive it is nested in.  All of it is found by walking up
from the line, nearest line first.
-/

/-- A directive together with the index of the line that opens it. -/
structure EnclosingDirective where
  index : Nat
  directive : Directive
  deriving Repr, DecidableEq

namespace Document

/-- The nearest line above that is not blank. -/
def previousNonBlank? (document : Document) (index : Nat) : Option (Line × Nat) :=
  (document.linesBefore index).find? fun (line, _) => !line.isBlank

/-- Whether only blank lines stand between the index and a title above it. -/
def isDirectlyAfterHeadline (document : Document) (index : Nat) : Bool :=
  match document.previousNonBlank? index with
  | none => false
  | some (line, _) => line.isHeadline

/-- The directive a line opens, provided the line starts left of the column. -/
def opening? (column : Nat) (entry : Line × Nat) : Option EnclosingDirective :=
  if entry.1.isBlank || Nat.ble column entry.1.indentation then
    none
  else
    (Directive.ofLine? entry.1).map (EnclosingDirective.mk entry.2)

/--
The nearest directive above the index that starts left of the column.  Lines
that are blank, no directive, or not left of the column are passed over.
-/
def enclosingDirective? (document : Document) (index column : Nat) : Option EnclosingDirective :=
  (document.linesBefore index).findSome? (opening? column)

/-- Whether the enclosing directive is of the given kind. -/
def isEnclosedBy (document : Document) (index column : Nat) (kind : DirectiveKind) : Bool :=
  (document.enclosingDirective? index column).bind (·.directive.kind?) == some kind

end Document

end MarkupLint
