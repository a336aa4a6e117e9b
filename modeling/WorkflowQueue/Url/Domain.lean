import WorkflowQueue.Text.Lowercase
import WorkflowQueue.Text.Printable
import WorkflowQueue.Text.Split
import WorkflowQueue.Url.Punycode

namespace WorkflowQueue.Url.Domain

/-!
# Domain names

A domain is compared and sent in ASCII and lower case. Its characters are mapped
first: letters to lower case, full-width forms to ASCII, ideographic full stops
to dots, and invisible marks to nothing. A label with other characters is then
written in its ASCII form, and a label that already claims to be such a form has
to be one.

This is the part of the Unicode mapping of domains (UTS 46) that is kept here.
Its table is left out, and so is the normal form C that follows it: other
compatibility characters, such as the ligature U+FB01, stay as they are, and
combining marks are not joined with their letters.
-/

/-- The mark in front of the ASCII form of a label. -/
def asciiMark : List Char := ['x', 'n', '-', '-']

/-- Visible ASCII characters that no domain holds. -/
def forbidden : List Char :=
  ['%', '#', '/', ':', '<', '>', '?', '@', '[', '\\', ']', '^', '|']

/-- Characters that are passed over. -/
def isIgnored
    (point : Nat) :
    Bool :=
  point = 0xAD || point = 0x34F || point = 0x200B || point = 0x2060 ||
      point = 0x2064 ||
    point = 0xFEFF || (0x180B ≤ point && point ≤ 0x180D) ||
      (0xFE00 ≤ point && point ≤ 0xFE0F)

/-- Full stops other than the ASCII one. -/
def isFullStop
    (point : Nat) :
    Bool :=
  point = 0x3002 || point = 0xFF0E || point = 0xFF61

/--
Characters that continue the one before and are not printable on their own.
-/
def isExtender
    (point : Nat) :
    Bool :=
  (0x300 ≤ point && point ≤ 0x36F) || (0x483 ≤ point && point ≤ 0x487) ||
    (0x591 ≤ point && point ≤ 0x5BD) || (0x610 ≤ point && point ≤ 0x61A) ||
    (0x64B ≤ point && point ≤ 0x65F) || (0x900 ≤ point && point ≤ 0xDFF) ||
    (0xE31 ≤ point && point ≤ 0xE4E) || (0x3099 ≤ point && point ≤ 0x309A)

/-- What a character is mapped to, unless no domain may hold it. -/
def mapChar?
    (c : Char) :
    Option (List Char) :=
  let point := c.toNat
  if point < 0x80 then
    if point ≤ 0x20 ∨ point = 0x7F ∨ forbidden.contains c then
      none else some [c.toLower]
  else if isIgnored point then some []
  else if isFullStop point then some ['.']
  else if 0xFF01 ≤ point ∧ point ≤ 0xFF5E then
    let narrow := Char.ofNat (point - 0xFEE0)
    if forbidden.contains narrow then none else some [narrow.toLower]
  else if Text.isPrintable c ∨ isExtender point then some [Text.lowercase c]
  else none

/-- Whether a label stays what it is when it is mapped. -/
def isMapped
    (label : List Char) :
    Bool :=
  label.all fun c => mapChar? c = some [c]

/-- Whether a label may begin as it does. -/
def beginsWell :
    List Char →
    Bool
  | [] => true
  | c :: _ => !isExtender c.toNat

/-- The ASCII form of a mapped label. -/
def labelText?
    (label : List Char) :
    Option (List Char) :=
  if asciiMark.isPrefixOf label then
    match Punycode.decode? (label.drop 4) with
    | none => none
    | some decoded =>
        if isMapped decoded ∧ beginsWell decoded ∧
          decoded.any (fun c => 0x80 ≤ c.toNat) then
          some label
        else none
  else if label.all fun c => c.toNat < 0x80 then some label
  else if beginsWell label then some (asciiMark ++ Punycode.encode label)
  else none

/-- The labels of a domain in ASCII, unless it holds what no domain may hold. -/
def labels?
    (domain : List Char) :
    Option (List (List Char)) := do
  let mapped ← domain.mapM mapChar?
  (Text.splitOn '.' mapped.flatten).mapM labelText?

end WorkflowQueue.Url.Domain
