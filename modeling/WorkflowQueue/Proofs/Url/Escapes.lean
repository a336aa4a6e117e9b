import WorkflowQueue.Url.Percent

namespace WorkflowQueue

/-!
# Escapes and what they stand for

The escaped form of a text stands for the bytes of that text, in every part of a
URL that escapes the percent sign. A text is determined by its bytes, so
different texts have different escaped forms.
-/

namespace Text

theorem utf8_append
    (first second : List Char) :
    utf8 (first ++ second) = utf8 first ++ utf8 second :=
  List.flatMap_append

/-- A text is determined by its bytes. -/
theorem utf8_injective :
    Function.Injective utf8 := by
  intro first second same
  have sameBytes : first.utf8Encode = second.utf8Encode :=
    congrArg List.toByteArray same
  rw [← String.toByteArray_ofList, ← String.toByteArray_ofList] at sameBytes
  exact String.ofList_injective (String.toByteArray_inj.mp sameBytes)

/-- An ASCII character is its own byte. -/
theorem utf8EncodeChar_of_ascii
    {c : Char}
    (isAscii : c.toNat < 128) :
    String.utf8EncodeChar c = [UInt8.ofNat c.toNat] := by
  have isOneByte : c.val.toNat ≤ 127 := Nat.le_of_lt_succ isAscii
  rw [String.utf8EncodeChar, if_pos isOneByte]
  rfl

end Text

namespace Url

/-! ## Taking escapes out -/

/-- A byte that is no percent sign stands for itself. -/
theorem decodeBytes_cons
    {byte : UInt8}
    (notMark : byte ≠ 0x25)
    (rest : List UInt8) :
    decodeBytes (byte :: rest) = byte :: decodeBytes rest := by
  match rest with
  | [] => rfl
  | [_] => rfl
  | _ :: _ :: _ => rw [decodeBytes, if_neg notMark]

/-- A hexadecimal digit is one byte, which is read as the digit's value. -/
theorem hexDigit?_upperHexDigit
    (value : Nat) :
    ∃ digit, String.utf8EncodeChar (upperHexDigit value) = [digit] ∧
      hexDigit? digit = some (value % 16) := by
  have sameDigit : upperHexDigit value = upperHexDigit (value % 16) := by
    rw [upperHexDigit, upperHexDigit, Nat.mod_mod]
  have allDigits : ∀ digit : Fin 16,
      (String.utf8EncodeChar (upperHexDigit digit)).map hexDigit? =
        [some digit.val] := by
    decide
  have isRead := allDigits ⟨value % 16, Nat.mod_lt value (by decide)⟩
  rw [← sameDigit] at isRead
  obtain ⟨digit, isDigit, isValue⟩ := List.map_eq_singleton_iff.mp isRead
  exact ⟨digit, isDigit, isValue⟩

/-- An escaped byte is read as the byte. -/
theorem decodeBytes_escapeByte
    (byte : UInt8)
    (rest : List UInt8) :
    decodeBytes (Text.utf8 (escapeByte byte) ++ rest) =
      byte :: decodeBytes rest := by
  obtain ⟨high, isHigh, highValue⟩ := hexDigit?_upperHexDigit (byte.toNat / 16)
  obtain ⟨low, isLow, lowValue⟩ := hexDigit?_upperHexDigit byte.toNat
  have shape : Text.utf8 (escapeByte byte) = [0x25, high, low] := by
    rw [Text.utf8, escapeByte, List.flatMap_cons, List.flatMap_cons,
      List.flatMap_singleton, isHigh, isLow]
    rfl
  have isByte :
      UInt8.ofNat (byte.toNat / 16 % 16 * 16 + byte.toNat % 16) = byte := by
    have bound := byte.toNat_lt
    have sameValue :
        byte.toNat / 16 % 16 * 16 + byte.toNat % 16 = byte.toNat := by omega
    rw [sameValue, UInt8.ofNat_toNat]
  rw [shape, List.cons_append, List.cons_append, List.cons_append,
    List.nil_append, decodeBytes, if_pos rfl, highValue, lowValue]
  exact congrArg (· :: decodeBytes rest) isByte

theorem decodeBytes_escapeBytes
    (bytes rest : List UInt8) :
    decodeBytes (Text.utf8 (bytes.flatMap escapeByte) ++ rest) =
      bytes ++ decodeBytes rest := by
  induction bytes with
  | nil =>
      rfl
  | cons byte others inductionHypothesis =>
      rw [List.flatMap_cons, Text.utf8_append, List.append_assoc,
        decodeBytes_escapeByte, inductionHypothesis, List.cons_append]

/-! ## Texts -/

/-- A part in which every percent sign begins an escape. -/
def Component.EscapesMark
    (component : Component) :
    Prop :=
  component.escapes '%' = true

theorem decodeBytes_encodeChar
    {component : Component}
    (escapesMark : component.EscapesMark)
    (c : Char)
    (rest : List UInt8) :
    decodeBytes (Text.utf8 (component.encodeChar c) ++ rest) =
      String.utf8EncodeChar c ++ decodeBytes rest := by
  unfold Component.encodeChar
  split
  · exact decodeBytes_escapeBytes _ rest
  · next notEscaped =>
      obtain ⟨notControl, isAscii⟩ : 32 ≤ c.toNat ∧ c.toNat < 127 := by
        simp only [Component.escapes, Bool.or_eq_true, decide_eq_true_eq,
          not_or] at notEscaped
        omega
      have notMark : UInt8.ofNat c.toNat ≠ 0x25 := by
        intro isMark
        have sameByte : c.toNat % 256 = 37 := congrArg UInt8.toNat isMark
        have sameCode : c.toNat = Char.toNat '%' := by
          have markCode : Char.toNat '%' = 37 := rfl
          omega
        exact notEscaped (Char.toNat_inj.mp sameCode ▸ escapesMark)
      rw [Text.utf8, List.flatMap_singleton,
        Text.utf8EncodeChar_of_ascii (by omega)]
      exact decodeBytes_cons notMark rest

/-- The escaped form of a text stands for the text. -/
theorem decode_encode
    {component : Component}
    (escapesMark : component.EscapesMark)
    (text : List Char) :
    decode (component.encode text) = Text.utf8 text := by
  unfold decode
  induction text with
  | nil =>
      rfl
  | cons c rest inductionHypothesis =>
      rw [Component.encode, List.flatMap_cons, Text.utf8_append,
        decodeBytes_encodeChar escapesMark]
      exact congrArg (String.utf8EncodeChar c ++ ·) inductionHypothesis

/-- Different texts have different escaped forms. -/
theorem encode_injective
    {component : Component}
    (escapesMark : component.EscapesMark) :
    Function.Injective component.encode := by
  intro first second same
  apply Text.utf8_injective
  rw [← decode_encode escapesMark first, same, decode_encode escapesMark second]

/--
An escaped form holds only characters of the text that need no escape, and those
of escapes.
-/
theorem mem_encode
    {component : Component}
    {text : List Char}
    {c : Char}
    (member : c ∈ component.encode text) :
    (c ∈ text ∧ component.escapes c = false) ∨ c = '%' ∨
      ∃ value, c = upperHexDigit value := by
  obtain ⟨original, isOriginal, inForm⟩ := List.mem_flatMap.mp member
  unfold Component.encodeChar at inForm
  split at inForm
  · obtain ⟨byte, -, inEscape⟩ := List.mem_flatMap.mp inForm
    simp only [escapeByte, List.mem_cons, List.not_mem_nil, or_false]
      at inEscape
    rcases inEscape with isMark | isHigh | isLow
    · exact Or.inr (Or.inl isMark)
    · exact Or.inr (Or.inr ⟨_, isHigh⟩)
    · exact Or.inr (Or.inr ⟨_, isLow⟩)
  · next notEscaped =>
      rw [List.mem_singleton.mp inForm]
      exact Or.inl ⟨isOriginal, Bool.not_eq_true _ ▸ notEscaped⟩

/-- A hexadecimal digit is a digit or a letter. -/
theorem isAlphanum_upperHexDigit
    (value : Nat) :
    (upperHexDigit value).isAlphanum = true := by
  have allDigits :
      ∀ digit : Fin 16, (upperHexDigit digit).isAlphanum = true := by
    decide
  have sameDigit : upperHexDigit value = upperHexDigit (value % 16) := by
    rw [upperHexDigit, upperHexDigit, Nat.mod_mod]
  rw [sameDigit]
  exact allDigits ⟨value % 16, Nat.mod_lt value (by decide)⟩

/-- What is no digit and no letter stands in an escape only as its mark. -/
theorem upperHexDigit_ne
    {c : Char}
    (notAlphanum : c.isAlphanum = false)
    (value : Nat) :
    upperHexDigit value ≠ c := by
  intro same
  rw [← same, isAlphanum_upperHexDigit] at notAlphanum
  cases notAlphanum

/-- A segment in escaped form ends neither itself nor the path. -/
theorem encode_segment_ne_separator
    {text : List Char}
    {c : Char}
    (member : c ∈ Component.segment.encode text) :
    c ≠ '/' ∧ c ≠ '?' ∧ c ≠ '#' := by
  rcases mem_encode member with ⟨-, notEscaped⟩ | isMark | ⟨value, isDigit⟩
  · refine ⟨?_, ?_, ?_⟩
    all_goals
      rintro rfl
      revert notEscaped
      decide
  · subst isMark
    decide
  · subst isDigit
    exact ⟨upperHexDigit_ne (by decide) value,
      upperHexDigit_ne (by decide) value, upperHexDigit_ne (by decide) value⟩

end Url

end WorkflowQueue
