import WorkflowQueue.Json.Value
import WorkflowQueue.Number.Shortest

namespace WorkflowQueue.Json

/-!
# Writing JSON text

One writer serves both layouts: the compact one, used on the wire, and the
indented one, used for printed results. The layouts differ only in the blanks
between tokens. Members are written in the order in which the value holds them.
-/

/-- How tokens are laid out. -/
inductive Layout where
  | compact
  | pretty
  deriving DecidableEq

/-- What stands before an element or a closing bracket at a nesting depth. -/
def Layout.lineBreak :
    Layout →
    Nat →
    List Char
  | .compact, _ => []
  | .pretty, depth => '\n' :: List.replicate (2 * depth) ' '

/-- What stands between a member's name and its value. -/
def Layout.colon :
    Layout →
    List Char
  | .compact => [':']
  | .pretty => [':', ' ']

/-- A hexadecimal digit in lower case. -/
def hexDigit
    (value : Nat) :
    Char :=
  Nat.digitChar (value % 16)

/-- The written form of one character of a string. -/
def escapeChar
    (c : Char) :
    List Char :=
  if c = '"' then ['\\', '"']
  else if c = '\\' then ['\\', '\\']
  else if c = '\n' then ['\\', 'n']
  else if c = '\r' then ['\\', 'r']
  else if c = '\t' then ['\\', 't']
  else if c.toNat = 8 then ['\\', 'b']
  else if c.toNat = 12 then ['\\', 'f']
  else if c.toNat < 32 then
    ['\\', 'u', '0', '0', hexDigit (c.toNat / 16), hexDigit c.toNat]
  else [c]

/-- A string between quotes. -/
def quote
    (text : String) :
    List Char :=
  '"' :: (text.toList.flatMap escapeChar ++ ['"'])

/-- A whole number with its sign. -/
def integerText
    (value : Int) :
    List Char :=
  if value < 0 then '-' :: Nat.toDigits 10 value.natAbs
  else Nat.toDigits 10 value.natAbs

/-- The decimal exponents that are written without an exponent. -/
def isPositional
    (exponent : Int) :
    Bool :=
  -5 ≤ exponent && exponent < 16

/-- Digits with a decimal point, at least one digit on either side of it. -/
def positional
    (digits : List Char)
    (exponent : Int) :
    List Char :=
  if exponent < 0 then
    '0' :: '.' :: (List.replicate (-exponent - 1).toNat '0' ++ digits)
  else
    let whole := exponent.toNat + 1
    let padded := digits ++ List.replicate (whole - digits.length) '0'
    match padded.drop whole with
    | [] => padded ++ ['.', '0']
    | fraction => padded.take whole ++ '.' :: fraction

/-- One digit before the point and a signed exponent. -/
def scientific
    (digits : List Char)
    (exponent : Int) :
    List Char :=
  let mantissa :=
    match digits with
    | first :: second :: rest => first :: '.' :: second :: rest
    | _ => digits
  let sign := if exponent < 0 then '-' else '+'
  mantissa ++ 'e' :: sign :: Nat.toDigits 10 exponent.natAbs

/-- The shortest text of a finite number that reads back to it. -/
def floatText :
    Binary64 →
    List Char
  | .finite negative significand exponent =>
      let decimal := Binary64.shortest significand exponent
      let magnitude :=
        if isPositional decimal.exponent then
          positional decimal.digits decimal.exponent
        else
          scientific decimal.digits decimal.exponent
      if negative then '-' :: magnitude else magnitude
  | _ => ['n', 'u', 'l', 'l']

mutual

/-- The text of a value whose brackets stand at a nesting depth. -/
def write
    (layout : Layout)
    (depth : Nat) :
    Json →
    List Char
  | .null => ['n', 'u', 'l', 'l']
  | .bool true => ['t', 'r', 'u', 'e']
  | .bool false => ['f', 'a', 'l', 's', 'e']
  | .integer number => integerText number.value
  | .float number => floatText number
  | .string text => quote text
  | .array [] => ['[', ']']
  | .array (first :: rest) =>
      '[' :: (layout.lineBreak (depth + 1) ++ write layout (depth + 1) first ++
        writeElements layout (depth + 1) rest ++
        layout.lineBreak depth ++ [']'])
  | .object [] => ['\x7b', '\x7d']
  | .object ((name, first) :: rest) =>
      '\x7b' :: (layout.lineBreak (depth + 1) ++ quote name ++ layout.colon ++
        write layout (depth + 1) first ++
        writeMembers layout (depth + 1) rest ++
        layout.lineBreak depth ++ ['\x7d'])

/-- The elements after the first, each after a comma. -/
def writeElements
    (layout : Layout)
    (depth : Nat) :
    List Json →
    List Char
  | [] => []
  | element :: rest =>
      ',' :: (layout.lineBreak depth ++ write layout depth element ++
        writeElements layout depth rest)

/-- The members after the first, each after a comma. -/
def writeMembers
    (layout : Layout)
    (depth : Nat) :
    List (String × Json) →
    List Char
  | [] => []
  | (name, value) :: rest =>
      ',' :: (layout.lineBreak depth ++ quote name ++ layout.colon ++
        write layout depth value ++ writeMembers layout depth rest)

end

/-- The text of a value without blanks. -/
def compact
    (value : Json) :
    String :=
  String.ofList (write .compact 0 value)

/--
The text of a value with one element or member a line, indented by two blanks a
level.
-/
def pretty
    (value : Json) :
    String :=
  String.ofList (write .pretty 0 value)

end WorkflowQueue.Json
