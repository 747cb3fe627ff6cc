namespace MarkupLint

/-!
# Reading UTF-8

Bytes are decoded by a machine that looks at one byte at a time and remembers
the sequence it is in the middle of.  Documents are decoded leniently: every
maximal sequence that cannot be completed becomes one replacement character.
Configuration files are decoded strictly and refused as a whole.
-/

namespace Utf8

/-- A character that has begun: its bits so far and what may come next. -/
structure Begun where
  bits : Nat
  owed : Nat
  low : Nat
  high : Nat
  deriving Repr, DecidableEq

/-- What a byte means between two characters. -/
inductive Opening where
  | complete (character : Char)
  | begun (sequence : Begun)
  | invalid
  deriving Repr, DecidableEq

/-- The meaning of a byte between two characters. -/
def opening (byte : UInt8) : Opening :=
  let value := byte.toNat
  if value < 0x80 then .complete (Char.ofNat value)
  else if value < 0xC2 then .invalid
  else if value < 0xE0 then .begun ⟨value - 0xC0, 1, 0x80, 0xBF⟩
  else if value = 0xE0 then .begun ⟨0, 2, 0xA0, 0xBF⟩
  else if value = 0xED then .begun ⟨0xD, 2, 0x80, 0x9F⟩
  else if value < 0xF0 then .begun ⟨value - 0xE0, 2, 0x80, 0xBF⟩
  else if value = 0xF0 then .begun ⟨0, 3, 0x90, 0xBF⟩
  else if value < 0xF4 then .begun ⟨value - 0xF0, 3, 0x80, 0xBF⟩
  else if value = 0xF4 then .begun ⟨4, 3, 0x80, 0x8F⟩
  else .invalid

/-- The character that stands for bytes that are no character. -/
def replacement : Char := '\ufffd'

namespace Begun

/-- Whether the byte continues the sequence. -/
def accepts (sequence : Begun) (byte : UInt8) : Bool :=
  Nat.ble sequence.low byte.toNat && Nat.ble byte.toNat sequence.high

/-- The bits of the sequence after a byte that continues it. -/
def bitsAfter (sequence : Begun) (byte : UInt8) : Nat :=
  sequence.bits * 64 + (byte.toNat - 0x80)

/-- The sequence after a byte that continues it, while more bytes are owed. -/
def next (sequence : Begun) (byte : UInt8) : Begun :=
  ⟨sequence.bitsAfter byte, sequence.owed - 1, 0x80, 0xBF⟩

end Begun

/--
Decode bytes in the middle of `pending`, if any.  A sequence that breaks off is
replaced, and the byte that broke it is read afresh.
-/
def decodeFrom (pending : Option Begun) : List UInt8 → List Char
  | [] =>
      match pending with
      | none => []
      | some _ => [replacement]
  | byte :: bytes =>
      match pending.filter (·.accepts byte) with
      | some sequence =>
          if sequence.owed ≤ 1 then
            Char.ofNat (sequence.bitsAfter byte) :: decodeFrom none bytes
          else
            decodeFrom (some (sequence.next byte)) bytes
      | none =>
          let broken := if pending.isSome then [replacement] else []
          match opening byte with
          | .complete character => broken ++ character :: decodeFrom none bytes
          | .begun sequence => broken ++ decodeFrom (some sequence) bytes
          | .invalid => broken ++ replacement :: decodeFrom none bytes

/-- Decode bytes, with a replacement character for each broken sequence. -/
def decodeLossy (bytes : List UInt8) : List Char :=
  decodeFrom none bytes

/-- Decode bytes in the middle of `pending`, refusing any broken sequence. -/
def decodeFrom? (pending : Option Begun) : List UInt8 → Option (List Char)
  | [] =>
      match pending with
      | none => some []
      | some _ => none
  | byte :: bytes =>
      match pending with
      | none =>
          match opening byte with
          | .complete character => (decodeFrom? none bytes).map (character :: ·)
          | .begun sequence => decodeFrom? (some sequence) bytes
          | .invalid => none
      | some sequence =>
          if sequence.accepts byte then
            if sequence.owed ≤ 1 then
              (decodeFrom? none bytes).map (Char.ofNat (sequence.bitsAfter byte) :: ·)
            else
              decodeFrom? (some (sequence.next byte)) bytes
          else
            none

/-- Decode bytes that are valid throughout. -/
def decode? (bytes : List UInt8) : Option (List Char) :=
  decodeFrom? none bytes

/-- A part of a sequence of bytes: a character, or a byte that belongs to none. -/
inductive Part where
  | character (character : Char)
  | stray (byte : UInt8)
  deriving Repr, DecidableEq

/-- The parts of bytes in the middle of `pending`, if any, which comes with its bytes so far. -/
def partsFrom (pending : Option (Begun × List UInt8)) : List UInt8 → List Part
  | [] =>
      match pending with
      | none => []
      | some (_, read) => read.map .stray
  | byte :: bytes =>
      match pending.filter (·.1.accepts byte) with
      | some (sequence, read) =>
          if sequence.owed ≤ 1 then
            .character (Char.ofNat (sequence.bitsAfter byte)) :: partsFrom none bytes
          else
            partsFrom (some (sequence.next byte, read ++ [byte])) bytes
      | none =>
          let broken := ((pending.map Prod.snd).getD []).map Part.stray
          match opening byte with
          | .complete character => broken ++ .character character :: partsFrom none bytes
          | .begun sequence => broken ++ partsFrom (some (sequence, [byte])) bytes
          | .invalid => broken ++ .stray byte :: partsFrom none bytes

/-- The parts of a sequence of bytes. -/
def parts (bytes : List UInt8) : List Part :=
  partsFrom none bytes

/-- The bytes of one character. -/
def encodeCharacter (character : Char) : List UInt8 :=
  let value := character.toNat
  if value < 0x80 then
    [UInt8.ofNat value]
  else if value < 0x800 then
    [UInt8.ofNat (0xC0 + value / 64), UInt8.ofNat (0x80 + value % 64)]
  else if value < 0x10000 then
    [UInt8.ofNat (0xE0 + value / 4096), UInt8.ofNat (0x80 + value / 64 % 64),
      UInt8.ofNat (0x80 + value % 64)]
  else
    [UInt8.ofNat (0xF0 + value / 262144), UInt8.ofNat (0x80 + value / 4096 % 64),
      UInt8.ofNat (0x80 + value / 64 % 64), UInt8.ofNat (0x80 + value % 64)]

/-- The bytes of a text. -/
def encode (text : List Char) : List UInt8 :=
  text.flatMap encodeCharacter

end Utf8

end MarkupLint
