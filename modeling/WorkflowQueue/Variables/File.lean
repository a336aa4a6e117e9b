import WorkflowQueue.Text.Blank
import WorkflowQueue.Text.Split
import WorkflowQueue.Variables.Basic

namespace WorkflowQueue.Variables

/-!
# Variables from a file

A file of variables has one `name=value` a line, with comments, two kinds of
quotes, backslashes, and values of other variables by `$name` or `${name}`. A
quoted value may go on over several lines. Lines are taken in until the first
one that cannot be read, and a variable that is set already keeps its value.
-/

/-! ## Lines -/

/-- Where a line has got to, as far as its end is concerned. -/
inductive Place where
  | plain
  | afterBlank
  | escaped
  | single
  | singleEscaped
  | double
  | doubleEscaped
  deriving DecidableEq

namespace Place

/--
Where a line has got to after one more character that is not inside quotes.
-/
def opened
    (c : Char) :
    Place :=
  if c = '\\' then .escaped
  else if c = '"' then .double
  else if c = '\'' then .single
  else .plain

/--
Where a line has got to after one more character, unless that begins a comment.
-/
def after?
    (place : Place)
    (c : Char) :
    Option Place :=
  match place with
  | .plain =>
      if Text.isWhiteSpace c && c ≠ '\n' && c ≠ '\r' then some .afterBlank
      else some (opened c)
  | .afterBlank => if c = '#' then none else some (opened c)
  | .escaped => some .plain
  | .single =>
      if c = '\\' then some .singleEscaped
      else if c = '\'' then some .plain
      else some .single
  | .singleEscaped => some .single
  | .double =>
      if c = '\\' then some .doubleEscaped
      else if c = '"' then some .plain
      else some .double
  | .doubleEscaped => some .double

end Place

/--
What a line of text holds before a comment, and where it has got to if it has no
comment.
-/
def scan
    (place : Place) :
    List Char →
    List Char × Option Place
  | [] => ([], some place)
  | c :: rest =>
      match place.after? c with
      | none => ([], none)
      | some next =>
          let (kept, last) := scan next rest
          (c :: kept, last)

/-- The lines of a text, each with the line feed that ends it. -/
def textLines
    (text : List Char) :
    List (List Char) :=
  let pieces := Text.splitOn '\n' text
  pieces.dropLast.map (· ++ ['\n']) ++ (pieces.getLast?.filter (· ≠ [])).toList

/-- Whether a line is nothing but a comment. -/
def isComment
    (line : List Char) :
    Bool :=
  (Text.skipWhiteSpace line).head? = some '#'

/--
The lines of a file, where a line of text goes on as long as it is inside
quotes. What is left open at the end of the file is no line.
-/
def fileLines
    (before : List Char)
    (place : Place) :
    List (List Char) →
    List (List Char)
  | [] => []
  | line :: rest =>
      if isComment (before ++ line) then fileLines [] .plain rest
      else
        match scan place line with
        | (kept, none) => (before ++ kept) :: fileLines [] .plain rest
        | (kept, some .plain) => (before ++ kept) :: fileLines [] .plain rest
        | (kept, some place) => fileLines (before ++ kept) place rest

/-! ## Values -/

/--
What comes next in a value. A name that is being read may stand in double
quotes.
-/
inductive Reading where
  | bare
  | single
  | double
  | escaped (quoted : Bool)
  | name (quoted : Bool) (name : List Char)
  | braced (quoted : Bool) (name : List Char)
  | ended
  deriving DecidableEq

/-- What comes next after an escape or a name. -/
def Reading.within
    (quoted : Bool) :
    Reading :=
  if quoted then .double else .bare

/-- Whether a character begins what is neither a quoted nor a bare character. -/
def Reading.special?
    (quoted : Bool)
    (c : Char) :
    Option Reading :=
  if c = '$' then some (.name quoted [])
  else if c = '\\' then some (.escaped quoted)
  else none

/-- The character that a backslash and a character stand for. -/
def unescape?
    (c : Char) :
    Option Char :=
  if ['\\', '\'', '"', '$', ' '].contains c then some c
  else if c = 'n' then some '\n'
  else none

/--
Whether a character may stand in a name after a dollar sign. Beyond ASCII, whole
blocks are taken to be letters or to be signs.
-/
def isWordChar
    (c : Char) :
    Bool :=
  let point := c.toNat
  let isSign :=
    point < 0xC0 || point = 0xD7 || point = 0xF7 ||
        (0x2000 ≤ point && point < 0x2070) ||
      (0x20A0 ≤ point && point < 0x2100) ||
        (0x2190 ≤ point && point < 0x2460) ||
      (0x2500 ≤ point && point < 0x2C00) ||
        (0x2E00 ≤ point && point < 0x3005) ||
      (0x3008 ≤ point && point < 0x3021) ||
        (0xE000 ≤ point && point < 0xF900) ||
      (0xFF00 ≤ point && point < 0xFF10) || (0x1F000 ≤ point && point < 0x20000)
  c.isAlphanum ||
    ['ª', '²', '³', 'µ', '¹', 'º', '¼', '½', '¾'].contains c || !isSign

/--
The value that is left to be read, where `meaning` gives the values of other
variables.
-/
def readValue?
    (meaning : List Char → List Char) :
    List Char →
    Reading →
    Option (List Char)
  | [], .bare => some []
  | [], .ended => some []
  | [], .escaped false => some []
  | [], .name false name => some (meaning name)
  | [], _ => none
  | c :: rest, .bare =>
      match Reading.special? false c with
      | some next => readValue? meaning rest next
      | none =>
          if c = '\'' then readValue? meaning rest .single
          else if c = '"' then readValue? meaning rest .double
          else if c = ' ' || c = '\t' then readValue? meaning rest .ended
          else (readValue? meaning rest .bare).map (c :: ·)
  | c :: rest, .single =>
      if c = '\'' then readValue? meaning rest .bare
      else (readValue? meaning rest .single).map (c :: ·)
  | c :: rest, .double =>
      match Reading.special? true c with
      | some next => readValue? meaning rest next
      | none =>
          if c = '"' then readValue? meaning rest .bare
          else (readValue? meaning rest .double).map (c :: ·)
  | c :: rest, .escaped quoted =>
      match unescape? c with
      | none => none
      | some meant =>
          (readValue? meaning rest (.within quoted)).map (meant :: ·)
  | c :: rest, .name quoted name =>
      if isWordChar c then readValue? meaning rest (.name quoted (name ++ [c]))
      else if c = '\x7b' && name.isEmpty then
        readValue? meaning rest (.braced quoted [])
      else if c = '$' then
        (readValue? meaning rest (.name quoted [])).map (meaning name ++ ·)
      else
        (readValue? meaning rest (.within quoted)).map (meaning name ++ c :: ·)
  | c :: rest, .braced quoted name =>
      if c = '\x7d' then
        (readValue? meaning rest (.within quoted)).map (meaning name ++ ·)
      else readValue? meaning rest (.braced quoted (name ++ [c]))
  | c :: rest, .ended =>
      if c = ' ' || c = '\t' then readValue? meaning rest .ended
      else if c = '#' then some []
      else none

/-- The names of the variables whose values a text may ask for. -/
def namesAskedFor :
    List Char →
    List String
  | [] => []
  | '$' :: '\x7b' :: rest =>
      String.ofList (rest.takeWhile (· ≠ '\x7d')) :: namesAskedFor rest
  | '$' :: rest =>
      String.ofList (rest.takeWhile isWordChar) :: namesAskedFor rest
  | _ :: rest => namesAskedFor rest

/-! ## Definitions -/

/-- Whether a character may begin the name of a variable. -/
def isNameStart
    (c : Char) :
    Bool :=
  c.isAlpha || c = '_'

/-- Whether a character may stand in the name of a variable. -/
def isNameChar
    (c : Char) :
    Bool :=
  c.isAlphanum || c = '_' || c = '.'

/-- A name at the start of a text, and the rest of the text. -/
def splitName?
    (text : List Char) :
    Option (List Char × List Char) :=
  if text.head?.any isNameStart then
    some (text.takeWhile isNameChar, text.dropWhile isNameChar)
  else none

/-- What follows an equals sign with blanks around it. -/
def afterEquals?
    (text : List Char) :
    Option (List Char) :=
  match Text.skipWhiteSpace text with
  | '=' :: rest => some (Text.skipWhiteSpace rest)
  | _ => none

/-- The word that may stand before a definition. -/
def exportWord : List Char := "export".toList

/-- The name and the written value of a definition. -/
def splitDefinition?
    (line : List Char) :
    Option (List Char × List Char) := do
  let (name, rest) ← splitName? line
  match afterEquals? rest with
  | some value => return (name, value)
  | none =>
      if name = exportWord then
        let (name, rest) ← splitName? (Text.skipWhiteSpace rest)
        return (name, ← afterEquals? rest)
      else none

/-- The value of a definition as it is written. -/
def definedValue?
    (environment : Variables)
    (written : List Char) :
    Option (List Char) :=
  if written.isEmpty || written.head? = some '#' then some []
  else
    readValue?
      (fun name => ((environment.value? (String.ofList name)).getD "").toList)
      written .bare

/-- Take in one line of a file, unless it cannot be read. -/
def defineLine?
    (environment : Variables)
    (line : List Char) :
    Option Variables :=
  let line := Text.trim line
  if line.isEmpty || line.head? = some '#' then some environment
  else do
    let (name, written) ← splitDefinition? line
    let value ← definedValue? environment written
    return environment.define (String.ofList name) (String.ofList value)

/-- Take in lines up to the first one that cannot be read. -/
def defineLines
    (environment : Variables) :
    List (List Char) →
    Variables
  | [] => environment
  | line :: rest =>
      match environment.defineLine? line with
      | none => environment
      | some more => more.defineLines rest

/--
Take in the text of a file. A byte order mark at its start does not count.
-/
def defineFile
    (environment : Variables)
    (text : String) :
    Variables :=
  let written :=
    match text.toList with
    | '\uFEFF' :: rest => rest
    | whole => whole
  environment.defineLines (fileLines [] .plain (textLines written))

end WorkflowQueue.Variables
