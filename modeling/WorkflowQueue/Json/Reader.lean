import WorkflowQueue.Json.Value
import WorkflowQueue.Number.Decimal

namespace WorkflowQueue.Json

/-!
# Reading JSON text

A reader consumes characters from the left and either returns what it read with
the characters that are left, or stops with a fault and the place of the fault.
Places are counted in bytes of the UTF-8 form of the text, and a fault may lie
inside a character: the byte that was refused is counted as read.

The reader recurses on the number of containers that may still be opened, so
nesting is bounded; the loops over elements and members count down the length
of the whole text, which no loop can outlast.
-/

/-- What is wrong with a text. -/
inductive Fault where
  | endOfValue
  | endOfList
  | endOfObject
  | endOfString
  | expectedValue
  | expectedWord
  | expectedColon
  | expectedCommaOrBracket
  | expectedCommaOrBrace
  | invalidNumber
  | numberOutOfRange
  | controlCharacter
  | invalidEscape
  | loneSurrogate
  | unfinishedPair
  | keyNotString
  | trailingComma
  | trailingCharacters
  | nestingTooDeep
  deriving DecidableEq

/-- The wording of a fault. -/
def Fault.message :
    Fault →
    String
  | .endOfValue => "EOF while parsing a value"
  | .endOfList => "EOF while parsing a list"
  | .endOfObject => "EOF while parsing an object"
  | .endOfString => "EOF while parsing a string"
  | .expectedValue => "expected value"
  | .expectedWord => "expected ident"
  | .expectedColon => "expected `:`"
  | .expectedCommaOrBracket => "expected `,` or `]`"
  | .expectedCommaOrBrace => "expected `,` or `\x7d`"
  | .invalidNumber => "invalid number"
  | .numberOutOfRange => "number out of range"
  | .controlCharacter =>
      "control character (\\u0000-\\u001F) found while parsing a string"
  | .invalidEscape => "invalid escape"
  | .loneSurrogate => "lone leading surrogate in hex escape"
  | .unfinishedPair => "unexpected end of hex escape"
  | .keyNotString => "key must be a string"
  | .trailingComma => "trailing comma"
  | .trailingCharacters => "trailing characters"
  | .nestingTooDeep => "recursion limit exceeded"

/--
A fault, the characters unread there, and how many bytes of them it takes in.
-/
structure Stop where
  fault : Fault
  unread : List Char
  bytes : Nat
  deriving DecidableEq

/-- What a reader makes of a text. -/
abbrev Read (α : Type) := Except Stop (α × List Char)

/-- Stop at the next byte, or at the end where there is none. -/
def stop
    (fault : Fault)
    (unread : List Char) :
    Read α :=
  .error { fault := fault, unread := unread, bytes := 1 }

/-- Stop right before the characters that are left. -/
def stopBefore
    (fault : Fault)
    (unread : List Char) :
    Read α :=
  .error { fault := fault, unread := unread, bytes := 0 }

/-- The length of a text in bytes. -/
def byteLength
    (text : List Char) :
    Nat :=
  text.foldl (fun total c => total + c.utf8Size) 0

/-- Blanks between tokens. -/
def isBlank
    (c : Char) :
    Bool :=
  c = ' ' || c = '\n' || c = '\t' || c = '\r'

/-- The text without its leading blanks. -/
def skipBlanks
    (text : List Char) :
    List Char :=
  text.dropWhile isBlank

/-- The rest of a word, letter by letter. -/
def word
    (value : Json) :
    List Char →
    List Char →
    Read Json
  | [], text => .ok (value, text)
  | _ :: _, [] => stop .endOfValue []
  | expected :: letters, c :: rest =>
      if c = expected then word value letters rest
      else stop .expectedWord (c :: rest)

/-! ## Numbers -/

/-- The largest significand that is gathered exactly. -/
def significandLimit : Nat := 18446744073709551616

/-- The largest exponent that is gathered exactly. -/
def exponentLimit : Nat := 2147483648

/-- Keep an exponent within 32 bits. -/
def clampExponent
    (exponent : Int) :
    Int :=
  max (-2147483648) (min 2147483647 exponent)

/--
The magnitude `significand * 10 ^ exponent`, rounded once for the significand
and once for the power. Exponents below `-308` are reached by steps of `308`;
exponents above `308` are out of range unless the number is zero.
-/
def magnitude?
    (number : Binary64)
    (exponent : Int) :
    Option Binary64 :=
  if 308 < exponent then
    if number.isZero then some number else none
  else if 0 ≤ exponent then
    let product := number.mul (Binary64.powerOfTen exponent.toNat)
    if product.isInfinite then none else some product
  else if -308 ≤ exponent then
    some (number.div (Binary64.powerOfTen (-exponent).toNat))
  else if number.isZero then some number
  else magnitude? (number.div (Binary64.powerOfTen 308)) (exponent + 308)
termination_by (-exponent).toNat
decreasing_by omega

/-- A floating-point number from its parts, or a fault where it is too large. -/
def floatOfParts
    (negative : Bool)
    (significand : Nat)
    (exponent : Int)
    (rest : List Char) :
    Read Json :=
  match magnitude? (Binary64.ofNat significand) exponent with
  | some number =>
      .ok (.float (if negative then number.negate else number), rest)
  | none => stopBefore .numberOutOfRange rest

/-- Drop the digits at the front. -/
def skipDigits
    (text : List Char) :
    List Char :=
  text.dropWhile Decimal.isDigit

/--
The digits of an exponent after the first. An exponent too large for 32 bits
makes a nonzero number out of range if it is positive and gives zero otherwise.
-/
def exponentDigits
    (negative : Bool)
    (significand : Nat)
    (start : Int)
    (downward : Bool) :
    Nat →
    List Char →
    Read Json
  | gathered, c :: rest =>
      match Decimal.digit? c with
      | some d =>
          let longer := 10 * gathered + d
          if longer < exponentLimit then
            exponentDigits negative significand start downward longer rest
          else if significand ≠ 0 ∧ ¬downward then
            stopBefore .numberOutOfRange rest
          else .ok (.float (Binary64.zero negative), skipDigits rest)
      | none => finish gathered (c :: rest)
  | gathered, [] => finish gathered []
where
  finish
      (gathered : Nat)
      (rest : List Char) :
      Read Json :=
    let exponent := if downward then start - gathered else start + gathered
    floatOfParts negative significand (clampExponent exponent) rest

/-- An exponent, after its letter. -/
def exponentPart
    (negative : Bool)
    (significand : Nat)
    (start : Int)
    (text : List Char) :
    Read Json :=
  let (downward, digits) :=
    match text with
    | '+' :: rest => (false, rest)
    | '-' :: rest => (true, rest)
    | _ => (false, text)
  match digits with
  | [] => stop .endOfValue []
  | c :: rest =>
      match Decimal.digit? c with
      | some d => exponentDigits negative significand start downward d rest
      | none => stop .invalidNumber digits

/-- What may follow the digits of a floating-point number. -/
def floatTail
    (negative : Bool)
    (significand : Nat)
    (exponent : Int)
    (text : List Char) :
    Read Json :=
  match text with
  | 'e' :: rest => exponentPart negative significand exponent rest
  | 'E' :: rest => exponentPart negative significand exponent rest
  | _ => floatOfParts negative significand exponent text

/--
The digits after a decimal point. Once a digit does not fit the significand, it
and all digits after it are ignored.
-/
def fractionDigits
    (negative : Bool) :
    Nat →
    Int →
    List Char →
    Read Json
  | significand, exponent, c :: rest =>
      match Decimal.digit? c with
      | some d =>
          let longer := 10 * significand + d
          if longer < significandLimit then
            fractionDigits negative longer (exponent - 1) rest
          else floatTail negative significand exponent (skipDigits rest)
      | none => floatTail negative significand exponent (c :: rest)
  | significand, exponent, [] => floatTail negative significand exponent []

/-- A fraction, after its point; at least one digit must stand there. -/
def fraction
    (negative : Bool)
    (significand : Nat)
    (exponent : Int)
    (text : List Char) :
    Read Json :=
  match text with
  | [] => stop .endOfValue []
  | c :: _ =>
      if Decimal.isDigit c then
        fractionDigits negative significand exponent text
      else stop .invalidNumber text

/--
A number whose whole digits do not fit the significand: each one more raises the
exponent.
-/
def longInteger
    (negative : Bool)
    (significand : Nat) :
    Int →
    List Char →
    Read Json
  | exponent, c :: rest =>
      if Decimal.isDigit c then
        longInteger negative significand (exponent + 1) rest
      else if c = '.' then fraction negative significand exponent rest
      else floatTail negative significand exponent (c :: rest)
  | exponent, [] => floatTail negative significand exponent []

/--
A whole number; minus zero and negative numbers beyond 64 bits are
floating-point.
-/
def wholeNumber
    (negative : Bool)
    (significand : Nat) :
    Json :=
  let value : Int := if negative then Int.negOfNat significand else significand
  match WideInteger.ofInt? value with
  | some number =>
      if negative ∧ significand = 0 then .float (Binary64.zero true)
      else .integer number
  | none =>
      let number := Binary64.ofNat significand
      .float (if negative then number.negate else number)

/-- What may follow the digits of a whole number. -/
def numberTail
    (negative : Bool)
    (significand : Nat)
    (text : List Char) :
    Read Json :=
  match text with
  | '.' :: rest => fraction negative significand 0 rest
  | 'e' :: rest => exponentPart negative significand 0 rest
  | 'E' :: rest => exponentPart negative significand 0 rest
  | _ => .ok (wholeNumber negative significand, text)

/-- The whole digits after the first. -/
def wholeDigits
    (negative : Bool) :
    Nat →
    List Char →
    Read Json
  | significand, c :: rest =>
      match Decimal.digit? c with
      | some d =>
          let longer := 10 * significand + d
          if longer < significandLimit then wholeDigits negative longer rest
          else longInteger negative significand 1 rest
      | none => numberTail negative significand (c :: rest)
  | significand, [] => numberTail negative significand []

/-- A number after its sign. A leading zero stands alone. -/
def number
    (negative : Bool)
    (text : List Char) :
    Read Json :=
  match text with
  | [] => stop .endOfValue []
  | '0' :: rest =>
      match rest with
      | c :: _ =>
          if Decimal.isDigit c then stop .invalidNumber rest
          else numberTail negative 0 rest
      | [] => numberTail negative 0 []
  | c :: rest =>
      match Decimal.digit? c with
      | some d => wholeDigits negative d rest
      | none => stop .invalidNumber text

/-! ## Strings -/

/-- The value of a hexadecimal digit in either case. -/
def hexValue?
    (c : Char) :
    Option Nat :=
  if '0' ≤ c ∧ c ≤ '9' then some (c.toNat - '0'.toNat)
  else if 'a' ≤ c ∧ c ≤ 'f' then some (c.toNat - 'a'.toNat + 10)
  else if 'A' ≤ c ∧ c ≤ 'F' then some (c.toNat - 'A'.toNat + 10)
  else none

/-- The 16-bit unit written by four hexadecimal digits. -/
def hexUnit?
    (a b c d : Char) :
    Option Nat := do
  let a ← hexValue? a
  let b ← hexValue? b
  let c ← hexValue? c
  let d ← hexValue? d
  return ((a * 16 + b) * 16 + c) * 16 + d

/-- Whether a unit is the second half of a surrogate pair. -/
def isLowSurrogate
    (unit : Nat) :
    Bool :=
  0xDC00 ≤ unit && unit ≤ 0xDFFF

/-- Whether a unit is the first half of a surrogate pair. -/
def isHighSurrogate
    (unit : Nat) :
    Bool :=
  0xD800 ≤ unit && unit ≤ 0xDBFF

/-- The character written by a surrogate pair. -/
def pairChar
    (high low : Nat) :
    Char :=
  Char.ofNat (0x10000 + (high - 0xD800) * 0x400 + (low - 0xDC00))

/-- The character that a one-letter escape stands for. -/
def shortEscape? :
    Char →
    Option Char
  | '"' => some '"'
  | '\\' => some '\\'
  | '/' => some '/'
  | 'b' => some (Char.ofNat 8)
  | 'f' => some (Char.ofNat 12)
  | 'n' => some '\n'
  | 'r' => some '\r'
  | 't' => some '\t'
  | _ => none

/--
The fault of an escape without four hexadecimal digits: four bytes are taken in.
-/
def hexFault
    (digits : List Char) :
    Read α :=
  if byteLength digits < 4 then stop .endOfString []
  else .error { fault := .invalidEscape, unread := digits, bytes := 4 }

/-- The fault of a first surrogate half that no second half follows. -/
def pairFault :
    List Char →
    Read α
  | [] => stop .endOfString []
  | '\\' :: [] => stop .endOfString []
  | '\\' :: 'u' :: digits => hexFault digits
  | '\\' :: rest => stop .unfinishedPair rest
  | text => stop .unfinishedPair text

/--
The characters of a string up to its closing quote; `taken` holds those read,
last first.
-/
def stringBody
    (taken : List Char) :
    List Char →
    Read String
  | [] => stop .endOfString []
  | c :: rest =>
      if c = '"' then .ok (String.ofList taken.reverse, rest)
      else if c = '\\' then
        match rest with
        | [] => stop .endOfString []
        | 'u' :: x :: y :: z :: w :: after =>
            match hexUnit? x y z w with
            | none => hexFault (x :: y :: z :: w :: after)
            | some unit =>
                if isLowSurrogate unit then stopBefore .loneSurrogate after
                else if isHighSurrogate unit then
                  match after with
                  | '\\' :: 'u' :: p :: q :: r :: s :: beyond =>
                      match hexUnit? p q r s with
                      | none => hexFault (p :: q :: r :: s :: beyond)
                      | some low =>
                          if isLowSurrogate low then
                            stringBody (pairChar unit low :: taken) beyond
                          else stopBefore .loneSurrogate beyond
                  | _ => pairFault after
                else stringBody (Char.ofNat unit :: taken) after
        | 'u' :: digits => hexFault digits
        | letter :: after =>
            match shortEscape? letter with
            | some meant => stringBody (meant :: taken) after
            | none => stop .invalidEscape rest
      else if c.toNat < 32 then stop .controlCharacter (c :: rest)
      else stringBody (c :: taken) rest

/-! ## Values -/

/-- How many containers may stand inside one another. -/
def nestingLimit : Nat := 127

/-- The elements after the first, up to the closing bracket. -/
def elements
    (item : List Char → Read Json) :
    Nat →
    List Json →
    List Char →
    Read (List Json)
  | 0, _, text => stop .endOfList text
  | rounds + 1, taken, text =>
      match skipBlanks text with
      | [] => stop .endOfList []
      | ']' :: rest => .ok (taken.reverse, rest)
      | ',' :: rest =>
          match skipBlanks rest with
          | [] => stop .endOfValue []
          | ']' :: after => stop .trailingComma (']' :: after)
          | next =>
              match item next with
              | .error fault => .error fault
              | .ok (value, after) =>
                  elements item rounds (value :: taken) after
      | other => stop .expectedCommaOrBracket other

/-- The elements of an array, after its opening bracket. -/
def arrayBody
    (item : List Char → Read Json)
    (rounds : Nat)
    (text : List Char) :
    Read (List Json) :=
  match skipBlanks text with
  | [] => stop .endOfList []
  | ']' :: rest => .ok ([], rest)
  | first =>
      match item first with
      | .error fault => .error fault
      | .ok (value, after) => elements item rounds [value] after

/-- A member, from the opening quote of its name. -/
def member
    (item : List Char → Read Json)
    (text : List Char) :
    Read (String × Json) :=
  match stringBody [] text with
  | .error fault => .error fault
  | .ok (name, after) =>
      match skipBlanks after with
      | [] => stop .endOfObject []
      | ':' :: rest =>
          match item rest with
          | .error fault => .error fault
          | .ok (value, left) => .ok ((name, value), left)
      | other => stop .expectedColon other

/-- The members after the first, up to the closing brace. -/
def members
    (item : List Char → Read Json) :
    Nat →
    Members →
    List Char →
    Read Members
  | 0, _, text => stop .endOfObject text
  | rounds + 1, taken, text =>
      match skipBlanks text with
      | [] => stop .endOfObject []
      | '\x7d' :: rest => .ok (taken, rest)
      | ',' :: rest =>
          match skipBlanks rest with
          | [] => stop .endOfValue []
          | '\x7d' :: after => stop .trailingComma ('\x7d' :: after)
          | '"' :: next =>
              match member item next with
              | .error fault => .error fault
              | .ok ((name, value), after) =>
                  members item rounds (taken.insert name value) after
          | other => stop .keyNotString other
      | other => stop .expectedCommaOrBrace other

/-- The members of an object, after its opening brace. -/
def objectBody
    (item : List Char → Read Json)
    (rounds : Nat)
    (text : List Char) :
    Read Members :=
  match skipBlanks text with
  | [] => stop .endOfObject []
  | '\x7d' :: rest => .ok ([], rest)
  | '"' :: next =>
      match member item next with
      | .error fault => .error fault
      | .ok ((name, value), after) =>
          members item rounds (Members.insert name value []) after
  | other => stop .keyNotString other

/-- A value in which `depth` containers may stand inside one another. -/
def value
    (rounds : Nat)
    (depth : Nat)
    (text : List Char) :
    Read Json :=
  match skipBlanks text with
  | [] => stop .endOfValue []
  | c :: rest =>
      if c = 'n' then word .null ['u', 'l', 'l'] rest
      else if c = 't' then word (.bool true) ['r', 'u', 'e'] rest
      else if c = 'f' then word (.bool false) ['a', 'l', 's', 'e'] rest
      else if c = '-' then number true rest
      else if Decimal.isDigit c then number false (c :: rest)
      else if c = '"' then
        (stringBody [] rest).map fun (text, after) => (.string text, after)
      else if c = '[' then
        match depth with
        | 0 => stop .nestingTooDeep (c :: rest)
        | inner + 1 =>
            (arrayBody (value rounds inner) rounds rest).map
                fun (items, after) =>
              (.array items, after)
      else if c = '\x7b' then
        match depth with
        | 0 => stop .nestingTooDeep (c :: rest)
        | inner + 1 =>
            (objectBody (value rounds inner) rounds rest).map
                fun (items, after) =>
              (.object items, after)
      else stop .expectedValue (c :: rest)

/-! ## Whole texts -/

/--
A fault with the line and the column, in bytes, up to which the text was read.
-/
structure SyntaxError where
  fault : Fault
  line : Nat
  column : Nat
  deriving DecidableEq

/-- The wording of a syntax error. -/
def SyntaxError.message
    (error : SyntaxError) :
    String :=
  error.fault.message ++ " at line " ++ toString error.line ++
    " column " ++ toString error.column

/--
The line and column after a number of bytes, clipped to the end of the text.
-/
def locate
    (bytes line column : Nat) :
    List Char →
    Nat × Nat
  | [] => (line, column)
  | c :: rest =>
      if bytes < c.utf8Size then (line, column + bytes)
      else if c = '\n' then locate (bytes - c.utf8Size) (line + 1) 0 rest
      else locate (bytes - c.utf8Size) line (column + c.utf8Size) rest

/-- The syntax error for a stop within a text. -/
def Stop.toSyntaxError
    (stopped : Stop)
    (text : List Char) :
    SyntaxError :=
  let read := byteLength text - byteLength stopped.unread + stopped.bytes
  let (line, column) := locate read 1 0 text
  { fault := stopped.fault, line := line, column := column }

/-- Read a whole text: one value with nothing but blanks around it. -/
def read
    (text : List Char) :
    Except Stop Json :=
  match value text.length nestingLimit text with
  | .error stopped => .error stopped
  | .ok (result, rest) =>
      match skipBlanks rest with
      | [] => .ok result
      | left =>
          .error { fault := .trailingCharacters, unread := left, bytes := 1 }

/-- Read a text as one JSON value. -/
def parse
    (text : String) :
    Except SyntaxError Json :=
  (read text.toList).mapError (Stop.toSyntaxError · text.toList)

end WorkflowQueue.Json
