import Mathlib.Data.List.Basic
import MarkupLint.Proofs.Text.Utf8

namespace MarkupLint

/-!
# Lenient decoding keeps line feeds

Whatever bytes come before it, a byte below 0x80 is read as the character it stands for:
it continues no sequence, so one that has begun is broken off and replaced, and decoding
starts afresh behind it.  Conversely no sequence of several bytes amounts to a line
feed, since the second byte is bounded from below where the first one has no bits.  So
the decoded text has a line feed for each byte 0x0A and no others.
-/

namespace Utf8

/-- The byte of a line feed. -/
def lineFeed : UInt8 := 0x0A

/--
What holds of every sequence while it is being read: only bytes from 0x80 on continue
it, and with any of them it amounts to more than the code of a line feed.
-/
structure Begun.IsMultibyte
    (sequence : Begun) : Prop where
  startsHigh :
    0x80 ≤ sequence.low
  amountsToMore :
    0x0A < sequence.bits * 64 + (sequence.low - 0x80)

/-- The first byte of a sequence bounds its second one so that no shorter form gets through. -/
theorem Opens.isMultibyte
    {byte : UInt8}
    {sequence : Begun}
    (opens : Opens byte sequence) :
    sequence.IsMultibyte := by
  cases opens <;>
    constructor <;>
      simp only <;>
        omega

theorem opening_of_high
    {byte : UInt8}
    (high : 0x80 ≤ byte.toNat) :
    opening byte = .invalid ∨
      ∃ sequence, opening byte = .begun sequence ∧ sequence.IsMultibyte := by
  cases opened : opening byte with
  | complete character =>
      exact absurd (ascii_of_opening opened).1 (Nat.not_lt.mpr high)
  | begun sequence =>
      exact .inr ⟨sequence, rfl, (opens_of_opening opened).isMultibyte⟩
  | invalid =>
      exact .inl rfl

namespace Begun.IsMultibyte

variable
  {sequence : Begun}
  (multibyte : sequence.IsMultibyte)

include multibyte

theorem not_accepts
    {byte : UInt8}
    (ascii : byte.toNat < 0x80) :
    sequence.accepts byte = false := by
  have startsHigh := multibyte.startsHigh
  rw [← Bool.not_eq_true, accepts, Bool.and_eq_true, Nat.ble_eq]
  omega

theorem lineFeed_lt_bitsAfter
    {byte : UInt8}
    (accepted : sequence.accepts byte = true) :
    0x0A < sequence.bitsAfter byte := by
  have amountsToMore := multibyte.amountsToMore
  simp only [accepts, Bool.and_eq_true, Nat.ble_eq] at accepted
  unfold bitsAfter
  omega

theorem next
    {byte : UInt8}
    (accepted : sequence.accepts byte = true) :
    (sequence.next byte).IsMultibyte := by
  have amountsToMore := multibyte.lineFeed_lt_bitsAfter accepted
  constructor
  · exact Nat.le_refl 0x80
  · simp only [Begun.next]
    omega

end Begun.IsMultibyte

/-- A byte that breaks a sequence off is read afresh behind the replacement. -/
theorem decodeFrom_some_cons
    (sequence : Begun)
    (byte : UInt8)
    (bytes : List UInt8) :
    decodeFrom (some sequence) (byte :: bytes) =
      if sequence.accepts byte then
        if sequence.owed ≤ 1 then
          Char.ofNat (sequence.bitsAfter byte) :: decodeFrom none bytes
        else
          decodeFrom (some (sequence.next byte)) bytes
      else
        replacement :: decodeFrom none (byte :: bytes) := by
  by_cases accepted : sequence.accepts byte = true
  · simp [decodeFrom, Option.filter_some, accepted]
  · cases opens : opening byte <;>
      simp [decodeFrom, Option.filter_some, accepted, opens]

theorem decodeFrom_ascii_cons
    {byte : UInt8}
    (ascii : byte.toNat < 0x80)
    (bytes : List UInt8) :
    decodeFrom none (byte :: bytes) = Char.ofNat byte.toNat :: decodeFrom none bytes := by
  simp [decodeFrom, opening_of_ascii ascii]

/-- What a byte can do between two characters. -/
theorem decodeFrom_none_cons_cases
    (byte : UInt8) :
    byte.toNat < 0x80 ∧
        (∀ bytes,
          decodeFrom none (byte :: bytes) = Char.ofNat byte.toNat :: decodeFrom none bytes) ∨
      0x80 ≤ byte.toNat ∧
        ((∀ bytes, decodeFrom none (byte :: bytes) = replacement :: decodeFrom none bytes) ∨
          ∃ sequence : Begun,
            sequence.IsMultibyte ∧
              ∀ bytes, decodeFrom none (byte :: bytes) = decodeFrom (some sequence) bytes) := by
  rcases Nat.lt_or_ge byte.toNat 0x80 with ascii | high
  · exact .inl ⟨ascii, decodeFrom_ascii_cons ascii⟩
  · rcases opening_of_high high with opens | ⟨sequence, opens, multibyte⟩
    · exact .inr ⟨high, .inl fun bytes => by simp [decodeFrom, opens]⟩
    · exact .inr ⟨high, .inr ⟨sequence, multibyte, fun bytes => by simp [decodeFrom, opens]⟩⟩

/-- At a byte below 0x80 decoding starts afresh, whatever it was in the middle of. -/
theorem decodeFrom_append_ascii
    {byte : UInt8}
    (ascii : byte.toNat < 0x80)
    {pending : Option Begun}
    (multibyte : ∀ sequence ∈ pending, sequence.IsMultibyte)
    (before after : List UInt8) :
    decodeFrom pending (before ++ byte :: after) =
      decodeFrom pending before ++ Char.ofNat byte.toNat :: decodeFrom none after := by
  induction before generalizing pending with
  | nil =>
      cases pending with
      | none =>
          exact decodeFrom_ascii_cons ascii after
      | some sequence =>
          have broken := (multibyte sequence rfl).not_accepts ascii
          rw [List.nil_append, decodeFrom_some_cons, broken, decodeFrom_ascii_cons ascii]
          rfl
  | cons first rest inductionHypothesis =>
      have afresh :
          decodeFrom none (first :: (rest ++ byte :: after)) =
            decodeFrom none (first :: rest) ++ Char.ofNat byte.toNat :: decodeFrom none after := by
        rcases decodeFrom_none_cons_cases first with
          ⟨-, reads⟩ | ⟨-, reads | ⟨sequence, isSequence, reads⟩⟩
        · rw [reads, reads, inductionHypothesis (by simp), List.cons_append]
        · rw [reads, reads, inductionHypothesis (by simp), List.cons_append]
        · rw [reads, reads, inductionHypothesis (by simpa using isSequence)]
      cases pending with
      | none =>
          exact afresh
      | some sequence =>
          rw [List.cons_append, decodeFrom_some_cons, decodeFrom_some_cons]
          by_cases accepted : sequence.accepts first = true
          · have nextMultibyte := (multibyte sequence rfl).next accepted
            rw [if_pos accepted, if_pos accepted]
            by_cases last : sequence.owed ≤ 1
            · rw [if_pos last, if_pos last, inductionHypothesis (by simp)]
              rfl
            · rw [if_neg last, if_neg last, inductionHypothesis (by simpa using nextMultibyte)]
          · rw [if_neg accepted, if_neg accepted, afresh]
            rfl

/-- A line feed is decoded as such between what stands before it and what follows. -/
theorem decodeLossy_append_lineFeed
    (before after : List UInt8) :
    decodeLossy (before ++ lineFeed :: after) =
      decodeLossy before ++ '\n' :: decodeLossy after :=
  decodeFrom_append_ascii (by decide) (by simp) before after

/-! ## No other line feeds -/

theorem ofNat_eq_lineFeed_iff
    {value : Nat} :
    Char.ofNat value = '\n' ↔ value = 0x0A := by
  constructor
  · intro same
    by_cases isValid : value.isValidChar
    · rw [Char.ofNat, dif_pos isValid] at same
      exact congrArg Char.toNat same
    · rw [Char.ofNat, dif_neg isValid] at same
      exact absurd same (by decide)
  · rintro rfl
    rfl

/-- Among the characters of one byte, only that of the byte 0x0A is a line feed. -/
theorem ofNat_beq_lineFeed
    (byte : UInt8) :
    (Char.ofNat byte.toNat == '\n') = (byte == lineFeed) := by
  rw [Bool.eq_iff_iff, beq_iff_eq, beq_iff_eq, ofNat_eq_lineFeed_iff, ← UInt8.toNat_inj]
  rfl

theorem ne_lineFeed_of_high
    {byte : UInt8}
    (high : 0x80 ≤ byte.toNat) :
    byte ≠ lineFeed := by
  rintro rfl
  exact absurd high (by decide)

/-- Each line feed of a decoded text is a byte of its own. -/
theorem count_lineFeed_decodeFrom
    {pending : Option Begun}
    (multibyte : ∀ sequence ∈ pending, sequence.IsMultibyte)
    (bytes : List UInt8) :
    (decodeFrom pending bytes).count '\n' = bytes.count lineFeed := by
  induction bytes generalizing pending with
  | nil =>
      cases pending <;>
        rfl
  | cons first rest inductionHypothesis =>
      have afresh :
          (decodeFrom none (first :: rest)).count '\n' = (first :: rest).count lineFeed := by
        rcases decodeFrom_none_cons_cases first with
          ⟨-, reads⟩ | ⟨high, reads | ⟨sequence, isSequence, reads⟩⟩
        · rw [reads, List.count_cons, List.count_cons, ofNat_beq_lineFeed,
            inductionHypothesis (by simp)]
        · rw [reads, List.count_cons_of_ne (by decide),
            List.count_cons_of_ne (ne_lineFeed_of_high high), inductionHypothesis (by simp)]
        · rw [reads, List.count_cons_of_ne (ne_lineFeed_of_high high),
            inductionHypothesis (by simpa using isSequence)]
      cases pending with
      | none =>
          exact afresh
      | some sequence =>
          rw [decodeFrom_some_cons]
          by_cases accepted : sequence.accepts first = true
          · have isContinuation := multibyte sequence rfl
            have notFeed : first ≠ lineFeed := by
              rintro rfl
              rw [isContinuation.not_accepts (by decide)] at accepted
              cases accepted
            rw [if_pos accepted, List.count_cons_of_ne notFeed]
            by_cases last : sequence.owed ≤ 1
            · have isOther : Char.ofNat (sequence.bitsAfter first) ≠ '\n' := by
                rw [Ne, ofNat_eq_lineFeed_iff]
                exact Nat.ne_of_gt (isContinuation.lineFeed_lt_bitsAfter accepted)
              rw [if_pos last, List.count_cons_of_ne isOther]
              exact inductionHypothesis (by simp)
            · rw [if_neg last]
              exact inductionHypothesis (by simpa using isContinuation.next accepted)
          · rw [if_neg accepted, List.count_cons_of_ne (by decide), afresh]

theorem count_lineFeed_decodeLossy
    (bytes : List UInt8) :
    (decodeLossy bytes).count '\n' = bytes.count lineFeed :=
  count_lineFeed_decodeFrom (by simp) bytes

/-- Without the byte of a line feed there is no line feed. -/
theorem lineFeed_not_mem_decodeLossy
    {bytes : List UInt8}
    (noLineFeed : lineFeed ∉ bytes) :
    '\n' ∉ decodeLossy bytes := by
  rw [← List.count_eq_zero, count_lineFeed_decodeLossy, List.count_eq_zero]
  exact noLineFeed

end Utf8

end MarkupLint
