namespace MarkupLint

/-!
# Directive kinds

The directives that have a meaning of their own.  A directive with any other
name is still a directive; it just has no kind.
-/

/-- A known directive. -/
inductive DirectiveKind where
  | admonition
  | attention
  | caution
  | classAttribute
  | codeBlock
  | configurationBlock
  | danger
  | deprecated
  | error
  | figure
  | hint
  | image
  | important
  | inclusion
  | index
  | literalInclude
  | note
  | raw
  | rstClass
  | seeAlso
  | sidebar
  | tip
  | tocTree
  | versionAdded
  | versionChanged
  | warning
  deriving Repr, DecidableEq

namespace DirectiveKind

/-- Every kind, in the order of their names. -/
def all : List DirectiveKind :=
  [admonition, attention, caution, classAttribute, codeBlock, configurationBlock, danger,
   deprecated, error, figure, hint, image, important, inclusion, index, literalInclude, note,
   raw, rstClass, seeAlso, sidebar, tip, tocTree, versionAdded, versionChanged, warning]

/-- The name of a directive as it is written in a document. -/
def name : DirectiveKind → String
  | admonition => "admonition"
  | attention => "attention"
  | caution => "caution"
  | classAttribute => "class"
  | codeBlock => "code-block"
  | configurationBlock => "configuration-block"
  | danger => "danger"
  | deprecated => "deprecated"
  | error => "error"
  | figure => "figure"
  | hint => "hint"
  | image => "image"
  | important => "important"
  | inclusion => "include"
  | index => "index"
  | literalInclude => "literalinclude"
  | note => "note"
  | raw => "raw"
  | rstClass => "rst-class"
  | seeAlso => "seealso"
  | sidebar => "sidebar"
  | tip => "tip"
  | tocTree => "toctree"
  | versionAdded => "versionadded"
  | versionChanged => "versionchanged"
  | warning => "warning"

/-- The kind with a given name; names are compared exactly. -/
def ofName? (name : List Char) : Option DirectiveKind :=
  all.find? fun kind => kind.name.toList == name

end DirectiveKind

end MarkupLint
