import WorkflowQueue.Text.Blank
import WorkflowQueue.Text.Split
import WorkflowQueue.Text.Utf8

namespace WorkflowQueue.Text

/-!
# Character sets of bodies

The bytes of a body are read in the character set that its content type names; a
mark of the byte order at the front is stronger than the name and is dropped.
Three character sets are read here: UTF-8, that of Western European texts, and
16-bit units. The tables of all others, from the Central European ones to those
of East Asia, are left out: a `Legacy` says how texts are read in them. Names
that stand for no character set at all stand for UTF-8.
-/

/-- The character sets that bodies are read in. -/
inductive Charset where
  | utf8
  | windows1252
  | utf16 (bigEndian : Bool)
  | other (name : List Char)
  deriving DecidableEq

/--
Readers of the character sets that have no table here, by their names in lower
case. What is no name of a character set has no reader.
-/
abbrev Legacy := List Char → Option (List UInt8 → List Char)

/-- No further character set is read. -/
def Legacy.absent : Legacy := fun _ => none

/-- Names of the character set that also stands for unknown ones. -/
def universalNames : List String := [
  "unicode-1-1-utf-8", "unicode11utf8", "unicode20utf8", "utf-8", "utf8",
  "x-unicode20utf8"
]

/-- Names of the character set of Western European texts. -/
def westernNames : List String := [
  "ansi_x3.4-1968", "ascii", "cp1252", "cp819", "csisolatin1", "ibm819",
  "iso-8859-1", "iso-ir-100", "iso8859-1", "iso88591", "iso_8859-1",
  "iso_8859-1:1987", "l1", "latin1", "us-ascii", "windows-1252", "x-cp1252"
]

/-- Names of the character set of 16-bit units, the lower byte first. -/
def littleEndianNames : List String := [
  "csunicode", "iso-10646-ucs-2", "ucs-2", "unicode", "unicodefeff",
  "utf-16", "utf-16le"
]

/-- Names of the character set of 16-bit units, the higher byte first. -/
def bigEndianNames : List String := ["unicodefffe", "utf-16be"]

/-- The character set of a name. -/
def Charset.ofName
    (name : List Char) :
    Charset :=
  let lowered := (trim name).map Char.toLower
  let known := String.ofList lowered
  if universalNames.contains known then .utf8
  else if westernNames.contains known then .windows1252
  else if littleEndianNames.contains known then .utf16 false
  else if bigEndianNames.contains known then .utf16 true
  else .other lowered

/--
The characters of the bytes from `0x80` to `0x9F` in Western European texts.
-/
def westernExtras : List Nat := [
  0x20AC, 0x81, 0x201A, 0x192, 0x201E, 0x2026, 0x2020, 0x2021, 0x2C6, 0x2030,
  0x160, 0x2039, 0x152, 0x8D, 0x17D, 0x8F, 0x90, 0x2018, 0x2019, 0x201C, 0x201D,
  0x2022, 0x2013, 0x2014, 0x2DC, 0x2122, 0x161, 0x203A, 0x153, 0x9D, 0x17E,
  0x178
]

/-- The character of a byte in Western European texts. -/
def westernChar
    (byte : UInt8) :
    Char :=
  let value := byte.toNat
  if 0x80 ≤ value ∧ value < 0xA0 then
    Char.ofNat (westernExtras.getD (value - 0x80) value)
  else Char.ofNat value

/-- The 16-bit units of bytes; a byte that is left over is no unit. -/
def units
    (bigEndian : Bool) :
    List UInt8 →
    List (Option Nat)
  | [] => []
  | [_] => [none]
  | first :: second :: rest =>
      let (high, low) := if bigEndian then (first, second) else (second, first)
      some (high.toNat * 256 + low.toNat) :: units bigEndian rest

/--
What a unit gives on its own: characters, and the first half of a pair that has
begun.
-/
def firstUnit :
    Option Nat →
    List Char × Option Nat
  | none => ([replacement], none)
  | some unit =>
      if 0xD800 ≤ unit ∧ unit < 0xDC00 then ([], some unit)
      else if 0xDC00 ≤ unit ∧ unit < 0xE000 then ([replacement], none)
      else ([Char.ofNat unit], none)

/-- What a unit gives after the first half of a pair. -/
def secondUnit
    (high : Nat)
    (unit : Option Nat) :
    List Char × Option Nat :=
  match unit with
  | some low =>
      if 0xDC00 ≤ low ∧ low < 0xE000 then
        ([Char.ofNat (0x10000 + (high - 0xD800) * 0x400 + (low - 0xDC00))],
          none)
      else
        let (read, following) := firstUnit unit
        (replacement :: read, following)
  | none => ([replacement, replacement], none)

/-- Read units after the first half of a pair that may have begun. -/
def readUnitsFrom :
    Option Nat →
    List (Option Nat) →
    List Char
  | none, [] => []
  | some _, [] => [replacement]
  | none, unit :: rest =>
      let (read, following) := firstUnit unit
      read ++ readUnitsFrom following rest
  | some high, unit :: rest =>
      let (read, following) := secondUnit high unit
      read ++ readUnitsFrom following rest

/-- The bytes of a text in a character set as a text. -/
def Charset.read
    (legacy : Legacy)
    (charset : Charset)
    (bytes : List UInt8) :
    List Char :=
  match charset with
  | .utf8 => readUtf8 bytes
  | .windows1252 => bytes.map westernChar
  | .utf16 bigEndian => readUnitsFrom none (units bigEndian bytes)
  | .other name =>
      match legacy name with
      | some read => read bytes
      | none => readUtf8 bytes

/--
The character set that a mark at the front asks for, and the bytes without the
mark.
-/
def splitMark
    (named : Charset) :
    List UInt8 →
    Charset × List UInt8
  | 0xEF :: 0xBB :: 0xBF :: rest => (.utf8, rest)
  | 0xFE :: 0xFF :: rest => (.utf16 true, rest)
  | 0xFF :: 0xFE :: rest => (.utf16 false, rest)
  | bytes => (named, bytes)

/-- A text without the quotes around it. -/
def unquote
    (text : List Char) :
    List Char :=
  match text with
  | '"' :: rest =>
      match rest.reverse with
      | '"' :: inner => inner.reverse
      | _ => text
  | _ => text

/--
The value of a parameter, if this is the one that names the character set.
-/
def charsetParameter?
    (parameter : List Char) :
    Option (List Char) :=
  let name := (trim (parameter.takeWhile (· ≠ '='))).map Char.toLower
  match parameter.dropWhile (· ≠ '=') with
  | _ :: value =>
      if name = "charset".toList then some (unquote (trim value)) else none
  | [] => none

/-- The character set that a content type names. -/
def Charset.ofContentType
    (contentType : Option String) :
    Charset :=
  match contentType with
  | none => .utf8
  | some text =>
      let parameters := (splitOn ';' text.toList).drop 1
      match parameters.findSome? charsetParameter? with
      | some name => Charset.ofName name
      | none => .utf8

/-- The text of a body with a content type. -/
def readBody
    (legacy : Legacy)
    (contentType : Option String)
    (bytes : List UInt8) :
    String :=
  let (charset, content) :=
    splitMark (Charset.ofContentType contentType) bytes
  String.ofList (charset.read legacy content)

end WorkflowQueue.Text
