namespace WorkflowQueue.Text

/-!
# UTF-8

Texts as bytes and bytes as texts. Every byte sequence can be read: each longest
part that begins a character and cannot be completed is read as the replacement
character.
-/

/-- The bytes of a text. -/
def utf8
    (text : List Char) :
    List UInt8 :=
  text.flatMap String.utf8EncodeChar

/-- The character that stands for bytes that are no character. -/
def replacement : Char := Char.ofNat 0xFFFD

/--
A character that has begun: its value so far, how many bytes it lacks, and what
the next may be.
-/
structure Begun where
  value : Nat
  missing : Nat
  low : Nat
  high : Nat
  deriving DecidableEq

/-- What the first byte of a character of several bytes begins. -/
def begin?
    (byte : Nat) :
    Option Begun :=
  if 0xC2 ≤ byte ∧ byte ≤ 0xDF then some ⟨byte - 0xC0, 1, 0x80, 0xBF⟩
  else if byte = 0xE0 then some ⟨0, 2, 0xA0, 0xBF⟩
  else if byte = 0xED then some ⟨0xD, 2, 0x80, 0x9F⟩
  else if 0xE1 ≤ byte ∧ byte ≤ 0xEF then some ⟨byte - 0xE0, 2, 0x80, 0xBF⟩
  else if byte = 0xF0 then some ⟨0, 3, 0x90, 0xBF⟩
  else if 0xF1 ≤ byte ∧ byte ≤ 0xF3 then some ⟨byte - 0xF0, 3, 0x80, 0xBF⟩
  else if byte = 0xF4 then some ⟨4, 3, 0x80, 0x8F⟩
  else none

/--
What a byte between characters gives: characters that are complete, and one that
has begun.
-/
def firstByte
    (byte : Nat) :
    List Char × Option Begun :=
  if byte < 0x80 then ([Char.ofNat byte], none)
  else
    match begin? byte with
    | some begun => ([], some begun)
    | none => ([replacement], none)

/-- What a byte gives after a character that has begun. -/
def nextByte
    (begun : Begun)
    (byte : Nat) :
    List Char × Option Begun :=
  if begun.low ≤ byte ∧ byte ≤ begun.high then
    let value := begun.value * 64 + (byte - 0x80)
    if begun.missing ≤ 1 then ([Char.ofNat value], none)
    else ([], some ⟨value, begun.missing - 1, 0x80, 0xBF⟩)
  else
    let (read, following) := firstByte byte
    (replacement :: read, following)

/-- Read bytes after a character that may have begun. -/
def readUtf8From :
    Option Begun →
    List UInt8 →
    List Char
  | none, [] => []
  | some _, [] => [replacement]
  | none, byte :: rest =>
      let (read, following) := firstByte byte.toNat
      read ++ readUtf8From following rest
  | some begun, byte :: rest =>
      let (read, following) := nextByte begun byte.toNat
      read ++ readUtf8From following rest

/-- Read bytes as a text, with replacement characters where they are none. -/
def readUtf8
    (bytes : List UInt8) :
    List Char :=
  readUtf8From none bytes

/-- Read bytes that are exactly the bytes of a text. -/
def readUtf8?
    (bytes : List UInt8) :
    Option (List Char) :=
  let text := readUtf8 bytes
  if utf8 text = bytes then some text else none

end WorkflowQueue.Text
