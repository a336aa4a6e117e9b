import WorkflowQueue.Text.Utf8

namespace WorkflowQueue.Url

/-!
# Percent encoding

The bytes of a character that may not stand in some part of a URL are written as
a percent sign and two hexadecimal digits. The parts differ only in the ASCII
characters that they escape; characters beyond ASCII are always escaped.
-/

/-- A part of a URL, as far as escapes are concerned. -/
inductive Component where
  | fragment
  | query
  | path
  | segment
  | userInfo
  deriving DecidableEq

/-- The visible characters that a part escapes. -/
def Component.reserved :
    Component →
    List Char
  | .fragment => [' ', '"', '<', '>', '`']
  | .query => [' ', '"', '#', '<', '>', '\'']
  | .path => [' ', '"', '#', '<', '>', '?', '`', '\x7b', '\x7d']
  | .segment =>
      [' ', '"', '#', '<', '>', '?', '`', '\x7b', '\x7d', '/', '%', '\\']
  | .userInfo =>
      [' ', '"', '#', '<', '>', '?', '`', '\x7b', '\x7d', '/', ':', ';', '=',
        '@', '[', '\\', ']', '^', '|']

/-- Whether a part escapes a character. -/
def Component.escapes
    (component : Component)
    (c : Char) :
    Bool :=
  c.toNat < 0x20 || 0x7F ≤ c.toNat || component.reserved.contains c

/-- A hexadecimal digit in upper case. -/
def upperHexDigit
    (value : Nat) :
    Char :=
  (Nat.digitChar (value % 16)).toUpper

/-- A byte as an escape. -/
def escapeByte
    (byte : UInt8) :
    List Char :=
  ['%', upperHexDigit (byte.toNat / 16), upperHexDigit byte.toNat]

/-- A character as it stands in a part. -/
def Component.encodeChar
    (component : Component)
    (c : Char) :
    List Char :=
  if component.escapes c then
    (String.utf8EncodeChar c).flatMap escapeByte else [c]

/-- A text as it stands in a part. -/
def Component.encode
    (component : Component)
    (text : List Char) :
    List Char :=
  text.flatMap component.encodeChar

/-- The value of a hexadecimal digit. -/
def hexDigit?
    (byte : UInt8) :
    Option Nat :=
  let value := byte.toNat
  if 0x30 ≤ value ∧ value ≤ 0x39 then some (value - 0x30)
  else if 0x41 ≤ value ∧ value ≤ 0x46 then some (value - 0x41 + 10)
  else if 0x61 ≤ value ∧ value ≤ 0x66 then some (value - 0x61 + 10)
  else none

/--
Take the escapes out of bytes. A percent sign without two digits stands for
itself.
-/
def decodeBytes :
    List UInt8 →
    List UInt8
  | [] => []
  | [last] => [last]
  | [first, last] => [first, last]
  | first :: second :: third :: rest =>
      if first = 0x25 then
        match hexDigit? second, hexDigit? third with
        | some high, some low =>
            UInt8.ofNat (high * 16 + low) :: decodeBytes rest
        | _, _ => first :: decodeBytes (second :: third :: rest)
      else first :: decodeBytes (second :: third :: rest)

/-- The bytes that a text with escapes stands for. -/
def decode
    (text : List Char) :
    List UInt8 :=
  decodeBytes (Text.utf8 text)

/-- Whether a character stands for itself in a form value. -/
def isFormSafe
    (c : Char) :
    Bool :=
  c.isAlphanum || c = '*' || c = '-' || c = '.' || c = '_'

/-- A text as a form value: blanks become plus signs. -/
def encodeForm
    (text : List Char) :
    List Char :=
  text.flatMap fun c =>
    if isFormSafe c then [c]
    else if c = ' ' then ['+']
    else (String.utf8EncodeChar c).flatMap escapeByte

end WorkflowQueue.Url
