import MarkupLint.Json.Value
import MarkupLint.Text.Numeral
import MarkupLint.Text.Search

namespace MarkupLint

/-!
# Writing JSON

Strings escape quotes, backslashes and control characters and leave every other
character as it is.  A value is written either on one row, or over several rows
with two spaces for each level; empty arrays and objects stay on one row.
-/

namespace Json

/-- One character inside a JSON string. -/
def escape (character : Char) : List Char :=
  if character = '\x22' then ['\\', '\x22']
  else if character = '\\' then ['\\', '\\']
  else if character = '\x08' then ['\\', 'b']
  else if character = '\x0c' then ['\\', 'f']
  else if character = '\n' then ['\\', 'n']
  else if character = '\r' then ['\\', 'r']
  else if character = '\t' then ['\\', 't']
  else if character.toNat < 0x20 then
    ['\\', 'u', '0', '0', digitCharacter (character.toNat / 16),
      digitCharacter (character.toNat % 16)]
  else [character]

/-- A text as a JSON string. -/
def quote (text : List Char) : List Char :=
  '\x22' :: text.flatMap escape ++ ['\x22']

/-- An integer as a JSON number. -/
def renderInteger : Int → List Char
  | .ofNat value => numeral value
  | .negSucc value => '-' :: numeral (value + 1)

/-- How the parts of arrays and objects are laid out. -/
inductive Layout where
  | compact
  | pretty
  deriving Repr, DecidableEq

/-- What separates the parts of an array or object at a nesting depth. -/
def Layout.rowStart (layout : Layout) (depth : Nat) : List Char :=
  match layout with
  | .compact => []
  | .pretty => '\n' :: List.replicate (2 * depth) ' '

/-- What separates the name of a member from its value. -/
def Layout.colon (layout : Layout) : List Char :=
  match layout with
  | .compact => [':']
  | .pretty => [':', ' ']

mutual

/-- The text of a value at a nesting depth. -/
def renderAt (layout : Layout) (depth : Nat) : Json → List Char
  | null => "null".toList
  | boolean true => "true".toList
  | boolean false => "false".toList
  | integer value => renderInteger value
  | decimal literal => literal
  | string value => quote value.toList
  | array [] => ['[', ']']
  | array (item :: items) =>
      '[' :: layout.rowStart (depth + 1) ++ renderAt layout (depth + 1) item ++
        renderItems layout (depth + 1) items ++ layout.rowStart depth ++ [']']
  | object [] => ['\x7b', '\x7d']
  | object ((name, value) :: members) =>
      '\x7b' :: layout.rowStart (depth + 1) ++ quote name.toList ++ layout.colon ++
        renderAt layout (depth + 1) value ++ renderMembers layout (depth + 1) members ++
        layout.rowStart depth ++ ['\x7d']

/-- The items of an array after the first one. -/
def renderItems (layout : Layout) (depth : Nat) : List Json → List Char
  | [] => []
  | item :: items =>
      ',' :: layout.rowStart depth ++ renderAt layout depth item ++
        renderItems layout depth items

/-- The members of an object after the first one. -/
def renderMembers (layout : Layout) (depth : Nat) : List (String × Json) → List Char
  | [] => []
  | (name, value) :: members =>
      ',' :: layout.rowStart depth ++ quote name.toList ++ layout.colon ++
        renderAt layout depth value ++ renderMembers layout depth members

end

/-- The text of a value. -/
def render (layout : Layout) (value : Json) : List Char :=
  renderAt layout 0 value

end Json

end MarkupLint
