import WorkflowQueue.Text.Charset

namespace WorkflowQueue.Text

/-!
# Texts that are read back from their bytes

The bytes of a text are read as that text again, character by character: the
first byte of a character says how many more there are and what the second may
be, and the bytes of a character keep to that. `readBody_utf8` puts the front of
a body before it, where a mark of the byte order would count.
-/

/-! ## One byte -/

section Byte

variable (rest : List UInt8)

theorem toNat_byte
    {value : Nat}
    (isByte : value < 256) :
    (UInt8.ofNat value).toNat = value :=
  UInt8.toNat_ofNat_of_lt' isByte

theorem readUtf8From_single
    {value : Nat}
    (isSingle : value < 0x80) :
    readUtf8From none (UInt8.ofNat value :: rest) =
      Char.ofNat value :: readUtf8From none rest := by
  have isValue : (UInt8.ofNat value).toNat = value := toNat_byte (by omega)
  rw [readUtf8From, isValue, firstByte, if_pos isSingle]
  rfl

theorem readUtf8From_first
    {value : Nat}
    {begun : Begun}
    (isByte : value < 256)
    (notSingle : 0x80 ≤ value)
    (begins : begin? value = some begun) :
    readUtf8From none (UInt8.ofNat value :: rest) =
      readUtf8From (some begun) rest := by
  rw [readUtf8From, toNat_byte isByte, firstByte,
    if_neg (Nat.not_lt.mpr notSingle), begins]
  rfl

variable
  {value low high : Nat}
  (bits : Nat)
  (allowed : low ≤ bits % 64 + 128 ∧ bits % 64 + 128 ≤ high)

include allowed

/-- A later byte adds six bits to what has begun. -/
theorem readUtf8From_middle
    (missing : Nat) :
    readUtf8From (some ⟨value, missing + 2, low, high⟩)
        (UInt8.ofNat (bits % 64 + 128) :: rest) =
      readUtf8From (some ⟨value * 64 + bits % 64, missing + 1, 0x80, 0xBF⟩)
        rest := by
  have isValue : (UInt8.ofNat (bits % 64 + 128)).toNat = bits % 64 + 128 :=
    toNat_byte (by omega)
  have notLast : ¬ missing + 2 ≤ 1 := by omega
  simp only [readUtf8From, isValue, nextByte, if_pos allowed, if_neg notLast,
    Nat.add_sub_cancel, List.nil_append]
  rfl

/-- The last byte completes the character. -/
theorem readUtf8From_last :
    readUtf8From (some ⟨value, 1, low, high⟩)
        (UInt8.ofNat (bits % 64 + 128) :: rest) =
      Char.ofNat (value * 64 + bits % 64) :: readUtf8From none rest := by
  have isValue : (UInt8.ofNat (bits % 64 + 128)).toNat = bits % 64 + 128 :=
    toNat_byte (by omega)
  simp only [readUtf8From, isValue, nextByte, if_pos allowed, Nat.le_refl,
    if_true, Nat.add_sub_cancel, List.singleton_append]

end Byte

/-! ## First bytes -/

/--
The least second byte after a first byte: it leaves out codes that need fewer
bytes.
-/
def lowestSecond
    (byte : Nat) :
    Nat :=
  if byte = 0xE0 then 0xA0 else if byte = 0xF0 then 0x90 else 0x80

/--
The greatest second byte after a first byte: it leaves out codes of no
character.
-/
def highestSecond
    (byte : Nat) :
    Nat :=
  if byte = 0xED then 0x9F else if byte = 0xF4 then 0x8F else 0xBF

theorem begin?_two
    {bits : Nat}
    (above : 2 ≤ bits)
    (below : bits < 32) :
    begin? (bits + 192) = some ⟨bits, 1, 0x80, 0xBF⟩ := by
  rw [begin?, if_pos (by omega), Nat.add_sub_cancel]

theorem begin?_three
    {bits : Nat}
    (below : bits < 16) :
    begin? (bits + 224) =
      some ⟨bits, 2, lowestSecond (bits + 224),
        highestSecond (bits + 224)⟩ := by
  have all : ∀ bits : Fin 16, begin? (bits + 224) =
      some ⟨bits, 2, lowestSecond (bits + 224),
        highestSecond (bits + 224)⟩ := by
    decide
  exact all ⟨bits, below⟩

theorem begin?_four
    {bits : Nat}
    (below : bits < 5) :
    begin? (bits + 240) =
      some ⟨bits, 3, lowestSecond (bits + 240),
        highestSecond (bits + 240)⟩ := by
  have all : ∀ bits : Fin 5, begin? (bits + 240) =
      some ⟨bits, 3, lowestSecond (bits + 240),
        highestSecond (bits + 240)⟩ := by
    decide
  exact all ⟨bits, below⟩

/-! ## One character -/

section Code

variable
  {code : Nat}
  (rest : List UInt8)

theorem readUtf8From_two
    (above : 0x80 ≤ code)
    (below : code < 0x800) :
    readUtf8From none
        (UInt8.ofNat (code / 64 % 32 + 192) ::
          UInt8.ofNat (code % 64 + 128) :: rest) =
      Char.ofNat code :: readUtf8From none rest := by
  have isWhole : code / 64 % 32 * 64 + code % 64 = code := by omega
  rw [readUtf8From_first _ (by omega) (by omega) (begin?_two (by omega)
    (by omega)), readUtf8From_last _ _ (by omega), isWhole]

/-- What three bytes stand for is neither shorter nor one half of a pair. -/
theorem readUtf8From_three
    (above : 0x800 ≤ code)
    (below : code < 0x10000)
    (isChar : code.isValidChar) :
    readUtf8From none
        (UInt8.ofNat (code / 4096 % 16 + 224) ::
            UInt8.ofNat (code / 64 % 64 + 128) ::
          UInt8.ofNat (code % 64 + 128) :: rest) =
      Char.ofNat code :: readUtf8From none rest := by
  have isWhole :
      (code / 4096 % 16 * 64 + code / 64 % 64) * 64 + code % 64 = code := by
        omega
  have allowed : lowestSecond (code / 4096 % 16 + 224) ≤ code / 64 % 64 + 128 ∧
      code / 64 % 64 + 128 ≤ highestSecond (code / 4096 % 16 + 224) := by
    unfold lowestSecond highestSecond
    unfold Nat.isValidChar at isChar
    constructor <;> repeat' split
    all_goals omega
  rw [readUtf8From_first _ (by omega) (by omega) (begin?_three (by omega)),
    readUtf8From_middle _ _ allowed, readUtf8From_last _ _ (by omega), isWhole]

/--
What four bytes stand for needs them, and is no more than a character can be.
-/
theorem readUtf8From_four
    (above : 0x10000 ≤ code)
    (isChar : code.isValidChar) :
    readUtf8From none
        (UInt8.ofNat (code / 262144 % 8 + 240) ::
            UInt8.ofNat (code / 4096 % 64 + 128) ::
          UInt8.ofNat (code / 64 % 64 + 128) ::
          UInt8.ofNat (code % 64 + 128) :: rest) =
      Char.ofNat code :: readUtf8From none rest := by
  unfold Nat.isValidChar at isChar
  have isWhole :
      ((code / 262144 % 8 * 64 + code / 4096 % 64) * 64 + code / 64 % 64) *
          64 + code % 64 =
        code := by
    omega
  have allowed :
      lowestSecond (code / 262144 % 8 + 240) ≤ code / 4096 % 64 + 128 ∧
      code / 4096 % 64 + 128 ≤ highestSecond (code / 262144 % 8 + 240) := by
    unfold lowestSecond highestSecond
    constructor <;> repeat' split
    all_goals omega
  rw [readUtf8From_first _ (by omega) (by omega) (begin?_four (by omega)),
    readUtf8From_middle _ _ allowed, readUtf8From_middle _ _ (by omega),
    readUtf8From_last _ _ (by omega), isWhole]

end Code

/-- The bytes of a character are read as the character. -/
theorem readUtf8From_encodeChar
    (c : Char)
    (rest : List UInt8) :
    readUtf8From none (String.utf8EncodeChar c ++ rest) =
      c :: readUtf8From none rest := by
  have isChar : c.toNat.isValidChar := c.valid
  obtain ⟨code, isCode⟩ : ∃ code, code = c.val.toNat := ⟨_, rfl⟩
  have isRead : Char.ofNat code = c := isCode ▸ Char.ofNat_toNat c
  replace isChar : code.isValidChar := isCode ▸ isChar
  unfold String.utf8EncodeChar
  rw [← isCode, ← isRead]
  dsimp only
  split
  · exact readUtf8From_single rest (by omega)
  split
  · exact readUtf8From_two rest (by omega) (by omega)
  split
  · exact readUtf8From_three rest (by omega) (by omega) isChar
  · exact readUtf8From_four rest (by omega) isChar

/-! ## Texts -/

/-- A text is read back from its bytes. -/
theorem readUtf8_utf8
    (text : List Char) :
    readUtf8 (utf8 text) = text := by
  unfold readUtf8
  induction text with
  | nil => rfl
  | cons c rest inductionHypothesis =>
      rw [utf8, List.flatMap_cons, readUtf8From_encodeChar]
      exact congrArg (c :: ·) inductionHypothesis

/-- Bytes that are read as a text are exactly its bytes. -/
theorem readUtf8?_eq_some_iff
    {bytes : List UInt8}
    {text : List Char} :
    readUtf8? bytes = some text ↔ utf8 text = bytes := by
  simp only [readUtf8?, Option.ite_none_right_eq_some, Option.some.injEq]
  constructor
  · rintro ⟨same, isRead⟩
    rw [← isRead]
    exact same
  · rintro rfl
    rw [readUtf8_utf8]
    exact ⟨rfl, rfl⟩

/-- The mark of the byte order. -/
def byteOrderMark : Char := Char.ofNat 0xFEFF

/-- No text has bytes that begin with one that begins no character. -/
theorem utf8_ne_of_stray
    {byte : UInt8}
    (isStray : firstByte byte.toNat = ([replacement], none))
    (notReplacement : byte ≠ 0xEF)
    (text : List Char)
    (rest : List UInt8) :
    utf8 text ≠ byte :: rest := by
  intro begins
  have isRead := readUtf8_utf8 text
  rw [begins, readUtf8, readUtf8From, isStray] at isRead
  have isFirst : (0xEF : UInt8) = byte := by
    rw [← isRead] at begins
    exact (List.cons.inj begins).1
  exact notReplacement isFirst.symm

/-- The bytes of a text begin with a mark only if the text does. -/
theorem splitMark_utf8
    {text : List Char}
    (unmarked : text.head? ≠ some byteOrderMark)
    (named : Charset) :
    splitMark named (utf8 text) = (named, utf8 text) := by
  have isRead := readUtf8_utf8 text
  unfold splitMark
  split
  · next rest begins =>
      rw [begins] at isRead
      refine (unmarked ?_).elim
      rw [← isRead]
      exact congrArg List.head? (readUtf8From_encodeChar byteOrderMark rest)
  · next begins =>
      exact (utf8_ne_of_stray (by decide) (by decide) text _ begins).elim
  · next begins =>
      exact (utf8_ne_of_stray (by decide) (by decide) text _ begins).elim
  · rfl

/--
The text of a body without a content type and without a mark is the text of its
bytes.
-/
theorem readBody_utf8
    (legacy : Legacy)
    {text : List Char}
    (unmarked : text.head? ≠ some byteOrderMark) :
    readBody legacy none (utf8 text) = String.ofList text := by
  simp only [readBody, splitMark_utf8 unmarked]
  exact congrArg String.ofList (readUtf8_utf8 text)

end WorkflowQueue.Text
