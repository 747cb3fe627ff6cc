import MarkupLint.Text.Utf8

namespace MarkupLint

/-!
# Reading back what was encoded

The bytes of a text are valid throughout, and decoding them gives the text back.
The proof follows the bytes of one character: its first byte opens a sequence
whose bounds admit the second one, and every byte after that adds six bits.  The same
bounds leave no other way to spell the character, so bytes that are decoded at all are
those of the text they are decoded as.
-/

namespace Utf8

/-- A byte that continues a sequence adds its six bits and either ends it or is owed more. -/
theorem decodeFrom?_continuation
    {sequence : Begun}
    {value : Nat}
    (isSmall : value < 64)
    (isAtLeast : sequence.low ≤ 0x80 + value)
    (isAtMost : 0x80 + value ≤ sequence.high)
    (bytes : List UInt8) :
    decodeFrom? (some sequence) (UInt8.ofNat (0x80 + value) :: bytes) =
      if sequence.owed ≤ 1 then
        (decodeFrom? none bytes).map (Char.ofNat (sequence.bits * 64 + value) :: ·)
      else
        decodeFrom? (some ⟨sequence.bits * 64 + value, sequence.owed - 1, 0x80, 0xBF⟩) bytes := by
  have toNat : (UInt8.ofNat (0x80 + value)).toNat = 0x80 + value :=
    UInt8.toNat_ofNat_of_lt' (by simp only [UInt8.size]; omega)
  generalize UInt8.ofNat (0x80 + value) = byte at toNat
  have accepted : sequence.accepts byte = true := by
    simp only [Begun.accepts, toNat, Bool.and_eq_true, Nat.ble_eq]
    exact ⟨isAtLeast, isAtMost⟩
  have bits : sequence.bitsAfter byte = sequence.bits * 64 + value := by
    unfold Begun.bitsAfter
    omega
  rw [decodeFrom?, if_pos accepted, Begun.next, bits]

theorem decodeFrom?_begun
    {byte : UInt8}
    {sequence : Begun}
    (opens : opening byte = .begun sequence)
    (bytes : List UInt8) :
    decodeFrom? none (byte :: bytes) = decodeFrom? (some sequence) bytes := by
  simp only [decodeFrom?, opens]

/-- A code point is no surrogate and not beyond the last one. -/
theorem toNat_bounds
    (character : Char) :
    character.toNat < 0xD800 ∨ 0xDFFF < character.toNat ∧ character.toNat < 0x110000 :=
  character.valid

theorem opening_two
    {value : Nat}
    (isLong : 0x80 ≤ value)
    (isShort : value < 0x800) :
    opening (UInt8.ofNat (0xC0 + value / 64)) = .begun ⟨value / 64, 1, 0x80, 0xBF⟩ := by
  have toNat : (UInt8.ofNat (0xC0 + value / 64)).toNat = 0xC0 + value / 64 :=
    UInt8.toNat_ofNat_of_lt' (by simp only [UInt8.size]; omega)
  simp only [opening, toNat]
  rw [if_neg (by omega), if_neg (by omega), if_pos (by omega), Nat.add_sub_cancel_left]

/-- The first byte of a character of three bytes rules out the shorter forms and surrogates. -/
theorem opening_three
    {value : Nat}
    (isLong : 0x800 ≤ value)
    (isShort : value < 0x10000)
    (noSurrogate : value < 0xD800 ∨ 0xDFFF < value) :
    ∃ low high,
      opening (UInt8.ofNat (0xE0 + value / 4096)) = .begun ⟨value / 4096, 2, low, high⟩ ∧
        low ≤ 0x80 + value / 64 % 64 ∧
        0x80 + value / 64 % 64 ≤ high := by
  have toNat : (UInt8.ofNat (0xE0 + value / 4096)).toNat = 0xE0 + value / 4096 :=
    UInt8.toNat_ofNat_of_lt' (by simp only [UInt8.size]; omega)
  simp only [opening, toNat]
  rw [if_neg (by omega), if_neg (by omega), if_neg (by omega)]
  by_cases isFirst : value / 4096 = 0
  · exact ⟨0xA0, 0xBF, by rw [if_pos (by omega), isFirst], by omega, by omega⟩
  · rw [if_neg (by omega)]
    by_cases isBeforeSurrogates : value / 4096 = 0xD
    · exact ⟨0x80, 0x9F, by rw [if_pos (by omega), isBeforeSurrogates], by omega, by omega⟩
    · refine ⟨0x80, 0xBF, ?_, by omega, by omega⟩
      rw [if_neg (by omega), if_pos (by omega), Nat.add_sub_cancel_left]

/-- The first byte of a character of four bytes rules out the shorter forms and too great values. -/
theorem opening_four
    {value : Nat}
    (isLong : 0x10000 ≤ value)
    (isCodePoint : value < 0x110000) :
    ∃ low high,
      opening (UInt8.ofNat (0xF0 + value / 262144)) = .begun ⟨value / 262144, 3, low, high⟩ ∧
        low ≤ 0x80 + value / 4096 % 64 ∧
        0x80 + value / 4096 % 64 ≤ high := by
  have toNat : (UInt8.ofNat (0xF0 + value / 262144)).toNat = 0xF0 + value / 262144 :=
    UInt8.toNat_ofNat_of_lt' (by simp only [UInt8.size]; omega)
  simp only [opening, toNat]
  rw [if_neg (by omega), if_neg (by omega), if_neg (by omega), if_neg (by omega),
    if_neg (by omega), if_neg (by omega)]
  by_cases isFirst : value / 262144 = 0
  · exact ⟨0x90, 0xBF, by rw [if_pos (by omega), isFirst], by omega, by omega⟩
  · rw [if_neg (by omega)]
    by_cases isLast : value / 262144 = 4
    · exact ⟨0x80, 0x8F, by rw [if_neg (by omega), if_pos (by omega), isLast], by omega, by omega⟩
    · refine ⟨0x80, 0xBF, ?_, by omega, by omega⟩
      rw [if_pos (by omega), Nat.add_sub_cancel_left]

/-- The bytes of a character are read as that character, whatever comes after them. -/
theorem decodeFrom?_encodeCharacter_append
    (character : Char)
    (bytes : List UInt8) :
    decodeFrom? none (encodeCharacter character ++ bytes) =
      (decodeFrom? none bytes).map (character :: ·) := by
  have isValid := toNat_bounds character
  have whole : Char.ofNat character.toNat = character := Char.ofNat_toNat character
  unfold encodeCharacter
  generalize character.toNat = value at isValid whole
  simp only
  by_cases isAscii : value < 0x80
  · have toNat : (UInt8.ofNat value).toNat = value :=
      UInt8.toNat_ofNat_of_lt' (by simp only [UInt8.size]; omega)
    simp only [if_pos isAscii, List.cons_append, List.nil_append, decodeFrom?, opening, toNat,
      whole]
  rw [if_neg isAscii]
  by_cases isTwo : value < 0x800
  · rw [if_pos isTwo]
    simp only [List.cons_append, List.nil_append]
    rw [decodeFrom?_begun (opening_two (by omega) isTwo),
      decodeFrom?_continuation (by omega) (by simp only; omega) (by simp only; omega)]
    simp only [Nat.le_refl, if_true, Nat.div_add_mod', whole]
  rw [if_neg isTwo]
  by_cases isThree : value < 0x10000
  · obtain ⟨low, high, opens, isAtLeast, isAtMost⟩ :=
      opening_three (by omega) isThree (by omega)
    have bits : (value / 4096 * 64 + value / 64 % 64) * 64 + value % 64 = value := by
      omega
    rw [if_pos isThree]
    simp only [List.cons_append, List.nil_append]
    rw [decodeFrom?_begun opens,
      decodeFrom?_continuation (by omega) isAtLeast isAtMost,
      if_neg (by simp only; omega),
      decodeFrom?_continuation (by omega) (by simp only; omega) (by simp only; omega)]
    simp only [Nat.reduceSub, Nat.le_refl, if_true, bits, whole]
  · obtain ⟨low, high, opens, isAtLeast, isAtMost⟩ :=
      opening_four (Nat.le_of_not_lt isThree) (by omega)
    have bits :
        ((value / 262144 * 64 + value / 4096 % 64) * 64 + value / 64 % 64) * 64 +
          value % 64 = value := by
      omega
    rw [if_neg isThree]
    simp only [List.cons_append, List.nil_append]
    rw [decodeFrom?_begun opens,
      decodeFrom?_continuation (by omega) isAtLeast isAtMost,
      if_neg (by simp only; omega),
      decodeFrom?_continuation (by omega) (by simp only; omega) (by simp only; omega),
      if_neg (by simp only; omega),
      decodeFrom?_continuation (by omega) (by simp only; omega) (by simp only; omega)]
    simp only [Nat.reduceSub, Nat.le_refl, if_true, bits, whole]

/-- Decoding the bytes of a text gives the text. -/
theorem decode?_encode
    (text : List Char) :
    decode? (encode text) = some text := by
  unfold decode?
  induction text with
  | nil =>
      rfl
  | cons character text inductionHypothesis =>
      rw [encode, List.flatMap_cons, decodeFrom?_encodeCharacter_append, ← encode,
        inductionHypothesis]
      rfl

/-! ## Only encoded texts are decoded -/

/-- What the first byte of a sequence says about its length and its second byte. -/
inductive Opens
    (byte : UInt8) :
    Begun → Prop where
  | two
      (bits : Nat)
      (isByte : byte.toNat = 0xC0 + bits)
      (isLong : 2 ≤ bits)
      (isShort : bits < 0x20) :
      Opens byte ⟨bits, 1, 0x80, 0xBF⟩
  | three
      (bits low high : Nat)
      (isByte : byte.toNat = 0xE0 + bits)
      (isShort : bits < 0x10)
      (bounds : 0x80 ≤ low ∧ high ≤ 0xBF)
      (isLong : bits = 0 → 0xA0 ≤ low)
      (noSurrogate : bits = 0xD → high ≤ 0x9F) :
      Opens byte ⟨bits, 2, low, high⟩
  | four
      (bits low high : Nat)
      (isByte : byte.toNat = 0xF0 + bits)
      (isShort : bits ≤ 4)
      (bounds : 0x80 ≤ low ∧ high ≤ 0xBF)
      (isLong : bits = 0 → 0x90 ≤ low)
      (isCodePoint : bits = 4 → high ≤ 0x8F) :
      Opens byte ⟨bits, 3, low, high⟩

theorem opening_of_ascii
    {byte : UInt8}
    (ascii : byte.toNat < 0x80) :
    opening byte = .complete (Char.ofNat byte.toNat) := by
  simp only [opening, if_pos ascii]

theorem ascii_of_opening
    {byte : UInt8}
    {character : Char}
    (opens : opening byte = .complete character) :
    byte.toNat < 0x80 ∧ character = Char.ofNat byte.toNat := by
  by_cases ascii : byte.toNat < 0x80
  · rw [opening_of_ascii ascii] at opens
    cases opens
    exact ⟨ascii, rfl⟩
  · unfold opening at opens
    grind

theorem opens_of_opening
    {byte : UInt8}
    {sequence : Begun}
    (opens : opening byte = .begun sequence) :
    Opens byte sequence := by
  unfold opening at opens
  grind [Opens]

/-- Inside a sequence the next byte lies within its bounds. -/
theorem exists_of_decodeFrom?_some
    {sequence : Begun}
    {bytes : List UInt8}
    {text : List Char}
    (reads : decodeFrom? (some sequence) bytes = some text) :
    ∃ byte rest,
      bytes = byte :: rest ∧
        sequence.low ≤ byte.toNat ∧
        byte.toNat ≤ sequence.high ∧
        (if sequence.owed ≤ 1 then
          (decodeFrom? none rest).map (Char.ofNat (sequence.bitsAfter byte) :: ·)
        else
          decodeFrom? (some (sequence.next byte)) rest) = some text := by
  cases bytes with
  | nil =>
      cases reads
  | cons byte rest =>
      rw [decodeFrom?] at reads
      split at reads
      case isTrue accepted =>
          obtain ⟨isAtLeast, isAtMost⟩ :
              sequence.low ≤ byte.toNat ∧ byte.toNat ≤ sequence.high := by
            simpa [Begun.accepts] using accepted
          exact ⟨byte, rest, rfl, isAtLeast, isAtMost, reads⟩
      case isFalse =>
          cases reads

/-- The last byte of a sequence completes its character. -/
theorem exists_of_decodeFrom?_last
    {bits low high : Nat}
    {bytes : List UInt8}
    {text : List Char}
    (reads : decodeFrom? (some ⟨bits, 1, low, high⟩) bytes = some text) :
    ∃ byte rest further,
      bytes = byte :: rest ∧
        low ≤ byte.toNat ∧
        byte.toNat ≤ high ∧
        text = Char.ofNat (bits * 64 + (byte.toNat - 0x80)) :: further ∧
        decodeFrom? none rest = some further := by
  obtain ⟨byte, rest, isCons, isAtLeast, isAtMost, ends⟩ := exists_of_decodeFrom?_some reads
  obtain ⟨further, readsFurther, isText⟩ := Option.map_eq_some_iff.mp ends
  exact ⟨byte, rest, further, isCons, isAtLeast, isAtMost, isText.symm, readsFurther⟩

/-- Any other byte of a sequence adds its six bits. -/
theorem exists_of_decodeFrom?_more
    {bits owed low high : Nat}
    {bytes : List UInt8}
    {text : List Char}
    (reads : decodeFrom? (some ⟨bits, owed + 2, low, high⟩) bytes = some text) :
    ∃ byte rest,
      bytes = byte :: rest ∧
        low ≤ byte.toNat ∧
        byte.toNat ≤ high ∧
        decodeFrom? (some ⟨bits * 64 + (byte.toNat - 0x80), owed + 1, 0x80, 0xBF⟩) rest =
          some text := by
  obtain ⟨byte, rest, isCons, isAtLeast, isAtMost, goesOn⟩ := exists_of_decodeFrom?_some reads
  rw [if_neg (by simp)] at goesOn
  exact ⟨byte, rest, isCons, isAtLeast, isAtMost, goesOn⟩

/-- The bytes of the character with a code point. -/
theorem encodeCharacter_ofNat
    {value : Nat}
    (isValid : value.isValidChar) :
    encodeCharacter (Char.ofNat value) =
      if value < 0x80 then
        [UInt8.ofNat value]
      else if value < 0x800 then
        [UInt8.ofNat (0xC0 + value / 64), UInt8.ofNat (0x80 + value % 64)]
      else if value < 0x10000 then
        [UInt8.ofNat (0xE0 + value / 4096), UInt8.ofNat (0x80 + value / 64 % 64),
          UInt8.ofNat (0x80 + value % 64)]
      else
        [UInt8.ofNat (0xF0 + value / 262144), UInt8.ofNat (0x80 + value / 4096 % 64),
          UInt8.ofNat (0x80 + value / 64 % 64), UInt8.ofNat (0x80 + value % 64)] := by
  rw [Char.ofNat, dif_pos isValid]
  rfl

/-- Bytes that hold the bits of a code point are those of its character. -/
theorem encodeCharacter_ofNat_one
    {first : UInt8}
    (isAscii : first.toNat < 0x80) :
    encodeCharacter (Char.ofNat first.toNat) = [first] := by
  rw [encodeCharacter_ofNat (.inl (by omega)), if_pos isAscii, UInt8.ofNat_toNat]

theorem encodeCharacter_ofNat_two
    (first second : UInt8)
    {value : Nat}
    (isLong : 0x80 ≤ value)
    (isShort : value < 0x800)
    (isFirst : first.toNat = 0xC0 + value / 64)
    (isSecond : second.toNat = 0x80 + value % 64) :
    encodeCharacter (Char.ofNat value) = [first, second] := by
  rw [encodeCharacter_ofNat (.inl (by omega)), if_neg (by omega), if_pos isShort, ← isFirst,
    ← isSecond, UInt8.ofNat_toNat, UInt8.ofNat_toNat]

theorem encodeCharacter_ofNat_three
    (first second third : UInt8)
    {value : Nat}
    (isLong : 0x800 ≤ value)
    (isShort : value < 0x10000)
    (noSurrogate : value < 0xD800 ∨ 0xDFFF < value)
    (isFirst : first.toNat = 0xE0 + value / 4096)
    (isSecond : second.toNat = 0x80 + value / 64 % 64)
    (isThird : third.toNat = 0x80 + value % 64) :
    encodeCharacter (Char.ofNat value) = [first, second, third] := by
  have isValid : value.isValidChar := noSurrogate.imp_right fun isHigh => ⟨isHigh, by omega⟩
  rw [encodeCharacter_ofNat isValid, if_neg (by omega), if_neg (by omega), if_pos isShort,
    ← isFirst, ← isSecond, ← isThird, UInt8.ofNat_toNat, UInt8.ofNat_toNat, UInt8.ofNat_toNat]

theorem encodeCharacter_ofNat_four
    (first second third fourth : UInt8)
    {value : Nat}
    (isLong : 0x10000 ≤ value)
    (isCodePoint : value < 0x110000)
    (isFirst : first.toNat = 0xF0 + value / 262144)
    (isSecond : second.toNat = 0x80 + value / 4096 % 64)
    (isThird : third.toNat = 0x80 + value / 64 % 64)
    (isFourth : fourth.toNat = 0x80 + value % 64) :
    encodeCharacter (Char.ofNat value) = [first, second, third, fourth] := by
  rw [encodeCharacter_ofNat (.inr ⟨by omega, isCodePoint⟩), if_neg (by omega), if_neg (by omega),
    if_neg (by omega), ← isFirst, ← isSecond, ← isThird, ← isFourth, UInt8.ofNat_toNat,
    UInt8.ofNat_toNat, UInt8.ofNat_toNat, UInt8.ofNat_toNat]

/-- The bytes that are read as a character are those of the character. -/
theorem exists_of_decodeFrom?_cons
    {byte : UInt8}
    {bytes : List UInt8}
    {text : List Char}
    (reads : decodeFrom? none (byte :: bytes) = some text) :
    ∃ character rest further,
      byte :: bytes = encodeCharacter character ++ rest ∧
        text = character :: further ∧
        decodeFrom? none rest = some further := by
  cases opened : opening byte with
  | complete character =>
      obtain ⟨isAscii, isCharacter⟩ := ascii_of_opening opened
      simp only [decodeFrom?, opened] at reads
      obtain ⟨further, readsFurther, rfl⟩ := Option.map_eq_some_iff.mp reads
      refine ⟨character, bytes, further, ?_, rfl, readsFurther⟩
      rw [isCharacter, encodeCharacter_ofNat_one isAscii]
      rfl
  | begun sequence =>
      rw [decodeFrom?_begun opened] at reads
      cases opens_of_opening opened with
      | two bits isByte isLong isShort =>
          obtain ⟨second, rest, further, rfl, _, _, rfl, readsFurther⟩ :=
            exists_of_decodeFrom?_last reads
          refine ⟨_, rest, further, ?_, rfl, readsFurther⟩
          rw [encodeCharacter_ofNat_two byte second]
          · rfl
          all_goals omega
      | three bits low high isByte isShort bounds isLong noSurrogate =>
          obtain ⟨second, _, rfl, _, _, readsThird⟩ := exists_of_decodeFrom?_more reads
          obtain ⟨third, rest, further, rfl, _, _, rfl, readsFurther⟩ :=
            exists_of_decodeFrom?_last readsThird
          refine ⟨_, rest, further, ?_, rfl, readsFurther⟩
          rw [encodeCharacter_ofNat_three byte second third]
          · rfl
          all_goals omega
      | four bits low high isByte isShort bounds isLong isCodePoint =>
          obtain ⟨second, _, rfl, _, _, readsThird⟩ := exists_of_decodeFrom?_more reads
          obtain ⟨third, _, rfl, _, _, readsFourth⟩ := exists_of_decodeFrom?_more readsThird
          obtain ⟨fourth, rest, further, rfl, _, _, rfl, readsFurther⟩ :=
            exists_of_decodeFrom?_last readsFourth
          refine ⟨_, rest, further, ?_, rfl, readsFurther⟩
          rw [encodeCharacter_ofNat_four byte second third fourth]
          · rfl
          all_goals omega
  | invalid =>
      simp only [decodeFrom?, opened] at reads
      cases reads

/-- Bytes are decoded as a text exactly if they are the bytes of that text. -/
theorem decode?_eq_some_iff
    {bytes : List UInt8}
    {text : List Char} :
    decode? bytes = some text ↔ bytes = encode text := by
  constructor
  · intro reads
    unfold decode? at reads
    induction text generalizing bytes with
    | nil =>
        cases bytes with
        | nil =>
            rfl
        | cons byte bytes =>
            obtain ⟨_, _, _, -, isCons, -⟩ := exists_of_decodeFrom?_cons reads
            cases isCons
    | cons character text inductionHypothesis =>
        cases bytes with
        | nil =>
            cases reads
        | cons byte bytes =>
            obtain ⟨_, rest, _, spells, isCons, readsFurther⟩ := exists_of_decodeFrom?_cons reads
            cases isCons
            rw [spells, inductionHypothesis readsFurther]
            rfl
  · rintro rfl
    exact decode?_encode text

/-! ## Bytes that stand for themselves -/

/-- All bytes of a character that has several are from 0x80 on. -/
theorem high_of_mem_encodeCharacter
    {byte : UInt8}
    {character : Char}
    (isLong : 0x80 ≤ character.toNat)
    (member : byte ∈ encodeCharacter character) :
    0x80 ≤ byte.toNat := by
  have isValid := toNat_bounds character
  unfold encodeCharacter at member
  generalize character.toNat = value at isValid isLong member
  simp only at member
  rw [if_neg (Nat.not_lt.mpr isLong)] at member
  by_cases isTwo : value < 0x800
  · simp only [if_pos isTwo, List.mem_cons, List.not_mem_nil, or_false, ← UInt8.toNat_inj,
      UInt8.toNat_ofNat'] at member
    omega
  rw [if_neg isTwo] at member
  by_cases isThree : value < 0x10000
  · simp only [if_pos isThree, List.mem_cons, List.not_mem_nil, or_false, ← UInt8.toNat_inj,
      UInt8.toNat_ofNat'] at member
    omega
  · simp only [if_neg isThree, List.mem_cons, List.not_mem_nil, or_false, ← UInt8.toNat_inj,
      UInt8.toNat_ofNat'] at member
    omega

/-- A byte below 0x80 occurs only as the whole of its character. -/
theorem eq_of_ascii_mem_encodeCharacter
    {byte : UInt8}
    (ascii : byte.toNat < 0x80)
    {character : Char}
    (member : byte ∈ encodeCharacter character) :
    character = Char.ofNat byte.toNat ∧ encodeCharacter character = [byte] := by
  rcases Nat.lt_or_ge character.toNat 0x80 with isAscii | isLong
  · have single : encodeCharacter character = [UInt8.ofNat character.toNat] :=
      if_pos isAscii
    have toNat : (UInt8.ofNat character.toNat).toNat = character.toNat :=
      UInt8.toNat_ofNat_of_lt' (by simp only [UInt8.size]; omega)
    rw [single, List.mem_singleton] at member
    rw [single, member, toNat, Char.ofNat_toNat]
    exact ⟨rfl, rfl⟩
  · have high := high_of_mem_encodeCharacter isLong member
    omega

/-- A byte below 0x80 splits the text that bytes spell. -/
theorem exists_of_encode_eq_append_ascii
    {byte : UInt8}
    (ascii : byte.toNat < 0x80)
    {text : List Char}
    {before after : List UInt8}
    (spells : encode text = before ++ byte :: after) :
    ∃ front back,
      text = front ++ Char.ofNat byte.toNat :: back ∧
        before = encode front ∧
        after = encode back := by
  induction text generalizing before with
  | nil =>
      simp [encode] at spells
  | cons character text inductionHypothesis =>
      have further :
          ∀ rest,
            before = encodeCharacter character ++ rest →
            encode text = rest ++ byte :: after →
            ∃ front back,
              character :: text = front ++ Char.ofNat byte.toNat :: back ∧
                before = encode front ∧
                after = encode back := by
        rintro rest rfl spellsRest
        obtain ⟨front, back, rfl, rfl, rfl⟩ := inductionHypothesis spellsRest
        exact ⟨character :: front, back, rfl, rfl, rfl⟩
      rw [encode, List.flatMap_cons, ← encode, List.append_eq_append_iff] at spells
      rcases spells with ⟨rest, isBefore, spellsRest⟩ | ⟨rest, isCharacter, spellsRest⟩
      · exact further rest isBefore spellsRest
      · cases rest with
        | nil =>
            exact further [] (by simpa using isCharacter.symm) (by simpa using spellsRest.symm)
        | cons first rest =>
            obtain ⟨rfl, isAfter⟩ := List.cons_eq_cons.mp spellsRest
            obtain ⟨rfl, isWhole⟩ :=
              eq_of_ascii_mem_encodeCharacter ascii (by rw [isCharacter]; simp)
            obtain ⟨rfl, rfl⟩ : before = [] ∧ rest = [] := by
              simpa [isWhole, List.singleton_eq_append_iff] using isCharacter
            exact ⟨[], text, rfl, rfl, isAfter⟩

end Utf8

end MarkupLint
