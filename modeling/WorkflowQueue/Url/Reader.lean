import WorkflowQueue.Url.Basic
import WorkflowQueue.Url.Domain

namespace WorkflowQueue.Url

/-!
# Reading URLs

A text is read from the left: scheme, user information, host, port, path, query
and fragment. Blanks and controls at the ends are trimmed, and tabs and line
breaks are dropped everywhere. Texts with other schemes are read only as far as
a fault can show; they end in a fault of their own.
-/

/-- Why a text is no address of a queue. -/
inductive Fault where
  | relative
  | emptyHost
  | badPort
  | badIpv4
  | badIpv6
  | badDomain
  | badHostCharacter
  | wrongScheme
  deriving DecidableEq

/-- The wording of a fault. -/
def Fault.message :
    Fault →
    String
  | .relative => "relative URL without a base"
  | .emptyHost => "empty host"
  | .badPort => "invalid port number"
  | .badIpv4 => "invalid IPv4 address"
  | .badIpv6 => "invalid IPv6 address"
  | .badDomain => "invalid international domain name"
  | .badHostCharacter => "invalid domain character"
  | .wrongScheme => "scheme must be http or https"

/-! ## Scheme -/

/-- Schemes as far as reading differs. -/
inductive SchemeKind where
  | web (scheme : Scheme)
  | special
  | file
  | other
  deriving DecidableEq

/-- The kind of a scheme in lower case. -/
def schemeKind
    (name : List Char) :
    SchemeKind :=
  if name = Scheme.text .http then .web .http
  else if name = Scheme.text .https then .web .https
  else if name = ['f', 't', 'p'] ∨ name = ['w', 's'] ∨
    name = ['w', 's', 's'] then .special
  else if name = ['f', 'i', 'l', 'e'] then .file
  else .other

/-- Whether a scheme may hold a character after its first. -/
def isSchemeChar
    (c : Char) :
    Bool :=
  c.isAlphanum || c = '+' || c = '-' || c = '.'

/-- The scheme in lower case and what follows its colon. -/
def splitScheme?
    (text : List Char) :
    Option (List Char × List Char) :=
  match text with
  | [] => none
  | c :: _ =>
      if c.isAlpha then
        match text.dropWhile isSchemeChar with
        | ':' :: rest =>
            some ((text.takeWhile isSchemeChar).map Char.toLower, rest)
        | _ => none
      else none

/-! ## User information -/

/-- Whether a character ends the authority. -/
def endsAuthority
    (special : Bool)
    (c : Char) :
    Bool :=
  c = '/' || c = '?' || c = '#' || (special && c = '\\')

/-- What stands before the last at sign of an authority, and what follows it. -/
def splitUserInfo?
    (special : Bool)
    (text : List Char) :
    Option (List Char × List Char) :=
  let authority := text.takeWhile fun c => !endsAuthority special c
  let backwards := authority.reverse
  match backwards.dropWhile (· ≠ '@') with
  | [] => none
  | _ :: info =>
      let host := (backwards.takeWhile (· ≠ '@')).reverse
      some (info.reverse, host ++ text.drop authority.length)

/--
Name and password; an empty password is none, and nothing at all is no user.
-/
def userInfoOf?
    (info : List Char) :
    Option UserInfo :=
  let name := Component.userInfo.encode (info.takeWhile (· ≠ ':'))
  match info.dropWhile (· ≠ ':') with
  | _ :: c :: rest =>
      some {
        name := name
        password := some (Component.userInfo.encode (c :: rest))
      }
  | _ => if name.isEmpty then none else some { name := name, password := none }

/-- Read user information, if there is any. Nobody's host may not be missing. -/
def readUserInfo
    (special : Bool)
    (text : List Char) :
    Except Fault (Option UserInfo × List Char) :=
  match splitUserInfo? special text with
  | none => .ok (none, text)
  | some (info, rest) =>
      match info, rest with
      | [], c :: _ =>
          if endsAuthority special c then
            .error .emptyHost else .ok (none, rest)
      | _, _ => .ok (userInfoOf? info, rest)

/-! ## Host and port -/

/--
The characters of the host and the rest. A colon inside brackets belongs to the
host.
-/
def splitHost
    (special : Bool)
    (inBrackets : Bool) :
    List Char →
    List Char × List Char
  | [] => ([], [])
  | c :: rest =>
      if (c = ':' && !inBrackets) || endsAuthority special c then
        ([], c :: rest)
      else
        let inside :=
          if c = '[' then true else if c = ']' then false else inBrackets
        let (host, after) := splitHost special inside rest
        (c :: host, after)

/-- The address in brackets, unless the host does not begin with one. -/
def readBrackets?
    (text : List Char) :
    Option (Except Fault Host) :=
  match text with
  | '[' :: rest =>
      some <|
        match rest.reverse with
        | ']' :: inner =>
            match groupsOfText? inner.reverse with
            | some groups => .ok (.ipv6 groups)
            | none => .error .badIpv6
        | _ => .error .badIpv6
  | _ => none

/-- The host of a web address. -/
def readHost
    (text : List Char) :
    Except Fault Host :=
  match readBrackets? text with
  | some result => result
  | none =>
      match (Text.readUtf8? (decode text)).bind Domain.labels? with
      | none => .error .badDomain
      | some labels =>
          let domain := (labels.intersperse ['.']).flatten
          if domain.isEmpty then .error .emptyHost
          else if endsInNumber labels then
            match addressOfLabels? labels with
            | some address => .ok (.ipv4 address)
            | none => .error .badIpv4
          else .ok (.domain domain)

/-- Characters that no host of another scheme holds. -/
def isForbiddenInHost
    (c : Char) :
    Bool :=
  c.toNat = 0 ||
    [
      ' ', '#', '/', ':', '<', '>', '?', '@', '[', '\\', ']', '^', '|'
    ].contains c

/-- The host of an address of another scheme, which is taken as it is. -/
def checkOpaqueHost
    (text : List Char) :
    Except Fault Unit :=
  match readBrackets? text with
  | some result => result.map fun _ => ()
  | none => if text.any isForbiddenInHost then
    .error .badHostCharacter else .ok ()

/--
The number of a port that is written, and the rest. No digits are no port.
-/
def readPort
    (text : List Char) :
    Except Fault (Option Nat × List Char) :=
  let digits := text.takeWhile Decimal.isDigit
  let rest := text.dropWhile Decimal.isDigit
  let number? := Decimal.unsigned? 65536 digits
  match digits, number?, rest with
  | _ :: _, none, _ => .error .badPort
  | _, number?, [] => .ok (number?, [])
  | _, number?, c :: _ =>
      if endsAuthority true c then .ok (number?, rest) else .error .badPort

/-- A port after a colon, if there is one. -/
def readOptionalPort
    (text : List Char) :
    Except Fault (Option Nat × List Char) :=
  match text with
  | ':' :: rest => readPort rest
  | _ => .ok (none, text)

/-! ## Path, query, fragment -/

/-- Segments that mean this place. -/
def isThisPlace
    (segment : List Char) :
    Bool :=
  [['.'], ['%', '2', 'e'], ['%', '2', 'E']].contains segment

/-- Segments that mean the place above. -/
def isPlaceAbove
    (segment : List Char) :
    Bool :=
  let dots := [['.'], ['%', '2', 'e'], ['%', '2', 'E']]
  dots.any fun first => dots.any fun second => segment = first ++ second

/--
The segments of a path, given in order; the last one is not followed by a slash.
-/
def resolvePath
    (taken : List (List Char)) :
    List (List Char) →
    List (List Char)
  | [] => taken
  | [last] =>
      if isPlaceAbove last then placeAbove taken ++ [[]]
      else if isThisPlace last then taken ++ [[]]
      else taken ++ [last]
  | segment :: rest =>
      if isPlaceAbove segment then resolvePath (placeAbove taken) rest
      else if isThisPlace segment then resolvePath taken rest
      else resolvePath (taken ++ [segment]) rest

/-- The path of a web address, in which a backslash is a slash. -/
def readPath
    (text : List Char) :
    List (List Char) :=
  let slashed := text.map fun c => if c = '\\' then '/' else c
  let relative :=
    match slashed with
    | '/' :: rest => rest
    | _ => slashed
  resolvePath [] ((Text.splitOn '/' relative).map Component.path.encode)

/-- The query after a question mark, if there is one. -/
def readQuery? :
    List Char →
    Option (List Char)
  | '?' :: query => some (Component.query.encode query)
  | _ => none

/-- The fragment after a number sign, if there is one. -/
def readFragment? :
    List Char →
    Option (List Char)
  | '#' :: fragment => some (Component.fragment.encode fragment)
  | _ => none

/-! ## Whole texts -/

/-- Read a web address after its scheme and slashes. -/
def readWeb
    (scheme : Scheme)
    (text : List Char) :
    Except Fault Url := do
  let (userInfo, text) ← readUserInfo true text
  let (hostText, text) := splitHost true false text
  if hostText.isEmpty then .error .emptyHost
  else
    let host ← readHost hostText
    let (port, text) ← readOptionalPort text
    let path := text.takeWhile fun c => c ≠ '?' && c ≠ '#'
    let afterPath := text.dropWhile fun c => c ≠ '?' && c ≠ '#'
    let query := afterPath.takeWhile (· ≠ '#')
    let afterQuery := afterPath.dropWhile (· ≠ '#')
    return {
      scheme := scheme
      userInfo := userInfo
      host := host
      port := port.filter (· ≠ scheme.defaultPort)
      path := readPath path
      query := readQuery? query
      fragment := readFragment? afterQuery
    }

/-- The fault of an address of a special scheme that is not the web's. -/
def specialFault
    (text : List Char) :
    Fault :=
  match readWeb .http text with
  | .error fault => fault
  | .ok _ => .wrongScheme

/-- The fault of a file address. -/
def fileFault
    (text : List Char) :
    Fault :=
  match text with
  | first :: second :: rest =>
      if endsAuthority true first && endsAuthority true second &&
          first ≠ '?' && first ≠ '#' && second ≠ '?' && second ≠ '#' then
        let host := rest.takeWhile fun c => !endsAuthority true c
        if host.isEmpty || isDriveLetter host then .wrongScheme
        else
          match readHost host with
          | .error fault => fault
          | .ok _ => .wrongScheme
      else .wrongScheme
  | _ => .wrongScheme

/-- Check an address of another scheme after its scheme and two slashes. -/
def checkOpaque
    (text : List Char) :
    Except Fault Unit := do
  let (userInfo, text) ← readUserInfo false text
  let (host, text) := splitHost false false text
  checkOpaqueHost host
  if host.isEmpty && text.head? = some ':' then .error .emptyHost
  let (_, _) ← readOptionalPort text
  if host.isEmpty && userInfo.isSome then .error .emptyHost

/-- The fault of an address of another scheme. -/
def opaqueFault
    (text : List Char) :
    Fault :=
  match text with
  | '/' :: '/' :: rest =>
      match checkOpaque rest with
      | .error fault => fault
      | .ok _ => .wrongScheme
  | _ => .wrongScheme

/-- Whether a character is trimmed at the ends. -/
def isTrimmed
    (c : Char) :
    Bool :=
  c.toNat ≤ 0x20

/-- The characters of a text that count. -/
def significant
    (text : List Char) :
    List Char :=
  let trimmed :=
    ((text.dropWhile isTrimmed).reverse.dropWhile isTrimmed).reverse
  trimmed.filter fun c => !isDropped c

/-- Read a text as a web address. -/
def read
    (text : List Char) :
    Except Fault Url :=
  match splitScheme? (significant text) with
  | none => .error .relative
  | some (scheme, rest) =>
      let afterSlashes := rest.dropWhile fun c => c = '/' || c = '\\'
      match schemeKind scheme with
      | .web scheme => readWeb scheme afterSlashes
      | .special => .error (specialFault afterSlashes)
      | .file => .error (fileFault rest)
      | .other => .error (opaqueFault rest)

/-- A text without the slashes at its end. -/
def trimSlashes
    (text : List Char) :
    List Char :=
  (text.reverse.dropWhile (· = '/')).reverse

/-- Read the root of a queue, whose trailing slashes do not count. -/
def ofText
    (text : String) :
    Except Fault Url :=
  read (trimSlashes text.toList)

end WorkflowQueue.Url
