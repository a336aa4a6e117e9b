import WorkflowQueue.Text.Printable

namespace WorkflowQueue.Text

/-!
# Quoted text

How a text is shown inside a message: between double quotes, with short escapes
for the common controls and a braced code point for every other character that
is not printable.
-/

/-- The shown form of one character. -/
def quotedChar
    (c : Char) :
    List Char :=
  if c.toNat = 0 then ['\\', '0']
  else if c = '\t' then ['\\', 't']
  else if c = '\n' then ['\\', 'n']
  else if c = '\r' then ['\\', 'r']
  else if c = '"' then ['\\', '"']
  else if c = '\\' then ['\\', '\\']
  else if isPrintable c then [c]
  else ['\\', 'u', '\x7b'] ++ Nat.toDigits 16 c.toNat ++ ['\x7d']

/-- A text between double quotes. -/
def quoted
    (text : String) :
    String :=
  String.ofList ('"' :: (text.toList.flatMap quotedChar ++ ['"']))

end WorkflowQueue.Text
