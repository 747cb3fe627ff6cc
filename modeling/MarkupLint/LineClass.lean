import MarkupLint.Directive
import MarkupLint.Text.DecimalDigit
import MarkupLint.Text.Utf8
import MarkupLint.Text.WordCharacter

namespace MarkupLint

/-!
# Classes of lines

Each predicate looks at one line and nothing else.  Constructs that start with
two dots and a space are told apart in a fixed order: a footnote, a link
definition, a directive, and only then a comment.
-/

/-- Whether the text holds no line feed. -/
def isSingleRow (text : List Char) : Bool :=
  !text.contains '\n'

/-- The text after a non-empty run of characters of a class. -/
def afterRun? (belongs : Char → Bool) (text : List Char) : Option (List Char) :=
  match text with
  | [] => none
  | character :: rest =>
      if belongs character then
        some (rest.dropWhile belongs)
      else
        none

namespace Line

/-- What may follow a footnote mark: nothing, or white space and more text. -/
def isFootnoteRest : List Char → Bool
  | [] => true
  | character :: rest => isWhiteSpace character && isSingleRow rest

/-- A footnote such as `.. [1]`, optionally followed by text. -/
def isFootnote (line : Line) : Bool :=
  match afterStart? ".. [".toList line.content with
  | none => false
  | some mark =>
      match afterRun? isDecimalDigit mark with
      | some (']' :: rest) => isFootnoteRest rest
      | _ => false

/-- What follows the target of a link definition: a colon, white space, a link. -/
def isLinkDestination : List Char → Bool
  | ':' :: rest =>
      match afterWhiteSpace? rest with
      | some (_ :: _) => true
      | _ => false
  | _ => false

/-- Whether a character may open a link target that is not quoted. -/
def isTargetStart (character : Char) : Bool :=
  character != '\x60' && character != ':' && !isWhiteSpace character

/-- Whether a character may stand inside a link target that is not quoted. -/
def isTargetCharacter (character : Char) : Bool :=
  character != '\x60' && character != ':'

/-- The text after a link target, which is quoted on both sides or on neither. -/
def afterTarget? : List Char → Option (List Char)
  | [] => none
  | '\x60' :: rest =>
      match afterRun? (· != '\x60') rest with
      | some ('\x60' :: behind) => some behind
      | _ => none
  | character :: rest =>
      if isTargetStart character then
        some (rest.dropWhile isTargetCharacter)
      else
        none

/-- A link definition such as `.. _target: link`. -/
def isLinkDefinition (line : Line) : Bool :=
  match (afterStart? ".. _".toList line.content).bind afterTarget? with
  | none => false
  | some rest => isLinkDestination rest

/-- Whether a quoted reference starts right after an opening backquote. -/
def isReferenceBody (text : List Char) : Bool :=
  match afterRun? (· != '\x60') text with
  | some ('\x60' :: '_' :: _) => true
  | _ => false

/-- Whether a quoted reference stands somewhere in the text. -/
def hasReference : List Char → Bool
  | [] => false
  | character :: rest =>
      (character == '\x60' && isReferenceBody rest) || hasReference rest

/-- The line refers to a link, as in a backquoted text followed by `_`. -/
def isLinkUsage (line : Line) : Bool :=
  hasReference line.text

/-- A comment: two dots, a space and a text that is none of the other constructs. -/
def isComment (line : Line) : Bool :=
  (match afterStart? ".. ".toList line.content with
    | some (character :: _) => !isWhiteSpace character
    | _ => false) &&
    !line.isFootnote && !line.isLinkDefinition && !line.isDirective

/-- An item of a bulleted or of an automatically numbered list. -/
def isListItem (line : Line) : Bool :=
  "* ".toList.isPrefixOf (trimStart line.text) || "#. ".toList.isPrefixOf (trimStart line.text)

mutual

/-- One or more columns with single spaces between them, each a run of `=` or a run of `-`. -/
def isBorderText : List Char → Bool
  | [] => false
  | sign :: rest => (sign == '=' || sign == '-') && isColumnRest sign rest

/-- What may follow a sign in its column: the sign again, the end, or a space and more columns. -/
def isColumnRest (sign : Char) : List Char → Bool
  | [] => true
  | character :: rest =>
      if character = ' ' then
        isBorderText rest
      else
        character == sign && isColumnRest sign rest

end

/-- The border of a simple table. -/
def isTable (line : Line) : Bool :=
  isBorderText line.content

/-- The characters that may underline or overline a title. -/
def adornments : List Char :=
  ['=', '-', '~', '*', '.', '^', '+', '#', '\x22', '\x27', '_', '\x60']

/-- The adornment of a title: three bytes at least, all of one character. -/
def isHeadline (line : Line) : Bool :=
  match line.content with
  | [] => false
  | first :: rest =>
      adornments.contains first && Nat.ble 3 (Utf8.encode (first :: rest)).length &&
        rest.all (· == first)

/-- Whether a character may stand in the name of an option. -/
def isOptionCharacter (character : Char) : Bool :=
  isWordCharacter character || character == '-'

/-- What may follow an option name: nothing, or white space and a value. -/
def isOptionValue : List Char → Bool
  | [] => true
  | rest =>
      match afterWhiteSpace? rest with
      | none => false
      | some value => isSingleRow value

/-- An option of a directive, such as `:linenos:` or `:language: text`. -/
def isOption (line : Line) : Bool :=
  match line.content with
  | ':' :: rest =>
      match afterRun? isOptionCharacter rest with
      | some (':' :: value) => isOptionValue value
      | _ => false
  | _ => false

/-- What may follow the first number of an annotation: nothing, or `- number`. -/
def isRangeEnd (text : List Char) : Bool :=
  match text with
  | [] => true
  | _ =>
      match trimStart text with
      | '-' :: rest => afterRun? isDecimalDigit (trimStart rest) == some []
      | _ => false

/-- An annotation of line numbers, such as `Line 15` or `Line 16 - 18`. -/
def isLineNumberAnnotation (line : Line) : Bool :=
  match (afterStart? "Line ".toList line.content).bind (afterRun? isDecimalDigit) with
  | none => false
  | some rest => isRangeEnd rest

end Line

end MarkupLint
