import MarkupLint.Directive.Kind
import MarkupLint.Line
import MarkupLint.Text.Search

namespace MarkupLint

/-!
# Directives

A directive opens a block.  It is either named, as in `.. note:: argument`,
possibly behind a `|substitution|`, or the shorthand `::` at the end of a line,
which opens a literal block.

`Directive.named?` reads a named directive from left to right without going
back: the white space after the dots, the substitution and the run of name
characters are each as long as possible, and the name has to end in `::` where
that run ends.
-/

/-- The directive that a line opens. -/
inductive Directive where
  | named (name : List Char) (argument : Option (List Char))
  | literalShorthand
  deriving Repr, DecidableEq

/-- Whether a directive name may start with the character. -/
def isNameStart (character : Char) : Bool :=
  character.isAlphanum

/-- Whether the character may stand inside a directive name. -/
def isNameCharacter (character : Char) : Bool :=
  character.isAlphanum || character == '_' || character == ':' || character == '+' ||
    character == '.' || character == '-'

/-- The text after a non-empty run of white space. -/
def afterWhiteSpace? : List Char → Option (List Char)
  | [] => none
  | character :: rest =>
      if isWhiteSpace character then
        some (trimStart rest)
      else
        none

/--
The text after a leading `|substitution|` and the white space behind it; a text
that does not start with a bar is left alone.
-/
def afterSubstitution? : List Char → Option (List Char)
  | '|' :: rest =>
      match rest.takeWhile (· != '|'), rest.dropWhile (· != '|') with
      | _ :: _, '|' :: behind => afterWhiteSpace? behind
      | _, _ => none
  | text => some text

/-- The part of a text before the two colons at its end. -/
def beforeColons? (text : List Char) : Option (List Char) :=
  match text.reverse with
  | ':' :: ':' :: reversed => some reversed.reverse
  | _ => none

/-- A directive name: not empty, and starting with a letter or a digit. -/
def validName? : List Char → Option (List Char)
  | [] => none
  | first :: rest =>
      if isNameStart first then
        some (first :: rest)
      else
        none

namespace Directive

/--
The argument behind `name::`: nothing, or white space and a text on the same
line.  The result is `none` when something else follows the colons.
-/
def argument? : List Char → Option (Option (List Char))
  | [] => some none
  | rest =>
      match afterWhiteSpace? rest with
      | none => none
      | some text =>
          if text.contains '\n' then
            none
          else if text.isEmpty then
            some none
          else
            some (some text)

/-- Read `name:: argument` from the start of a text. -/
def nameAndArgument? (text : List Char) : Option Directive := do
  let word ← beforeColons? (text.takeWhile isNameCharacter)
  let name ← validName? word
  let argument ← argument? (text.dropWhile isNameCharacter)
  return .named name argument

/-- Read a named directive from the content of a line. -/
def named? (content : List Char) : Option Directive := do
  let afterDots ← afterStart? ['.', '.'] content
  let afterSpace ← afterWhiteSpace? afterDots
  let afterSubstitution ← afterSubstitution? afterSpace
  nameAndArgument? afterSubstitution

/-- Read a directive from the content of a line. -/
def ofContent? (content : List Char) : Option Directive :=
  match named? content with
  | some directive => some directive
  | none =>
      if (beforeColons? content).isSome then
        some .literalShorthand
      else
        none

/-- The directive that a line opens, if any. -/
def ofLine? (line : Line) : Option Directive :=
  ofContent? line.content

/-- Whether a directive is the shorthand. -/
def isShorthand : Directive → Bool
  | literalShorthand => true
  | named _ _ => false

/-- The kind of a directive; the shorthand is a code block. -/
def kind? : Directive → Option DirectiveKind
  | named name _ => DirectiveKind.ofName? name
  | literalShorthand => some .codeBlock

end Directive

namespace Line

/-- Whether the line opens a directive. -/
def isDirective (line : Line) : Bool :=
  (Directive.ofLine? line).isSome

/-- Whether the line opens a directive of the given kind. -/
def opens (line : Line) (kind : DirectiveKind) : Bool :=
  (Directive.ofLine? line).bind Directive.kind? == some kind

end Line

end MarkupLint
