import MarkupLint.Text.Utf8

namespace MarkupLint

/-!
# Control sequences

A terminal takes an escape character as the start of a sequence that controls it,
for example its colours.  `plainText` is what a terminal would show of a text:
it leaves out sequences and control characters, and keeps white space.
-/

/-- Where in a control sequence a terminal is. -/
inductive ControlState where
  | ground
  | escape
  | escapeIntermediate
  | command
  | device
  | deviceParameters
  | deviceIntermediate
  /-- Inside a string, up to its terminator. -/
  | string
  /-- Inside a string that a bell ends. -/
  | title
  deriving Repr, DecidableEq

namespace ControlState

/-- The state after the character behind an escape. -/
def ofEscape (byte : Nat) : ControlState :=
  if 0x20 ≤ byte ∧ byte ≤ 0x2F then escapeIntermediate
  else if byte = 0x50 then device
  else if byte = 0x5B then command
  else if byte = 0x5D then title
  else if byte = 0x58 ∨ byte = 0x5E ∨ byte = 0x5F then string
  else if 0x30 ≤ byte ∧ byte ≤ 0x7E then ground
  else escape

/-- The state after a byte in a device sequence, where `inner` says what parameters lead to. -/
def ofDevice (state inner : ControlState) (byte : Nat) : ControlState :=
  if 0x20 ≤ byte ∧ byte ≤ 0x2F then deviceIntermediate
  else if 0x30 ≤ byte ∧ byte ≤ 0x3B then inner
  else if 0x3C ≤ byte ∧ byte ≤ 0x3F then (if state = device then inner else string)
  else if 0x40 ≤ byte ∧ byte ≤ 0x7E then string
  else state

/-- The state after a byte. -/
def next (state : ControlState) (byte : UInt8) : ControlState :=
  let value := byte.toNat
  if value = 0x18 ∨ value = 0x1A then ground
  else if value = 0x1B then escape
  else
    match state with
    | ground => ground
    | escape => ofEscape value
    | escapeIntermediate => if 0x30 ≤ value ∧ value ≤ 0x7E then ground else state
    | command => if 0x40 ≤ value ∧ value ≤ 0x7E then ground else state
    | device => ofDevice device deviceParameters value
    | deviceParameters => ofDevice deviceParameters deviceParameters value
    | deviceIntermediate => ofDevice deviceIntermediate string value
    | string => if value = 0x9C then ground else state
    | title => if value = 0x07 then ground else state

/-- The state after a character. -/
def advance (state : ControlState) (character : Char) : ControlState :=
  (Utf8.encodeCharacter character).foldl next state

/-- Whether a character is white space that moves the cursor. -/
def isMovement (character : Char) : Bool :=
  character == '\t' || character == '\n' || character == '\x0c' || character == '\r'

/-- Whether a character shows in a state; some sequences let white space through. -/
def shows (state : ControlState) (character : Char) : Bool :=
  match state with
  | ground => isMovement character || (Nat.ble 0x20 character.toNat && character != '\x7f')
  | escape => isMovement character
  | escapeIntermediate => isMovement character
  | command => isMovement character
  | _ => false

/-- The state after a character that shows; a sequence it stands in is not forgotten. -/
def afterShown (state : ControlState) (character : Char) : ControlState :=
  if character.toNat < 0x80 then state else ground

end ControlState

/--
What shows of a text from a state on.  Behind a character that shows, everything up
to the next one that does not is taken as it is.
-/
def plainTextFrom (state : ControlState) (isShowing : Bool) : List Char → List Char
  | [] => []
  | character :: text =>
      if (isShowing && ControlState.ground.shows character) || state.shows character then
        character :: plainTextFrom (state.afterShown character) true text
      else
        plainTextFrom (state.advance character) false text

/-- What shows of a text. -/
def plainText (text : List Char) : List Char :=
  plainTextFrom .ground false text

end MarkupLint
