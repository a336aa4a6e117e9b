import WorkflowQueue.Url.Address
import WorkflowQueue.Url.Percent

namespace WorkflowQueue

/-!
# URLs

Web addresses in normal form: every part holds exactly the text that is written,
with escapes. The path is a list of segments, each written after a slash; it is
never empty.
-/

namespace Url

/-- The host of a URL. -/
inductive Host where
  | domain (name : List Char)
  | ipv4 (address : Nat)
  | ipv6 (groups : List Nat)
  deriving DecidableEq

/-- The written host. -/
def Host.text :
    Host →
    List Char
  | .domain name => name
  | .ipv4 address => addressText address
  | .ipv6 groups => '[' :: (groupsText groups ++ [']'])

/-- A name and an optional password, with escapes. -/
structure UserInfo where
  name : List Char
  password : Option (List Char)
  deriving DecidableEq

/-- The written user information, which ends in an at sign. -/
def UserInfo.text
    (info : UserInfo) :
    List Char :=
  match info.password with
  | none => info.name ++ ['@']
  | some password => info.name ++ ':' :: password ++ ['@']

/-- The schemes that the queue may be reached by. -/
inductive Scheme where
  | http
  | https
  deriving DecidableEq

/-- The written scheme. -/
def Scheme.text :
    Scheme →
    List Char
  | .http => ['h', 't', 't', 'p']
  | .https => ['h', 't', 't', 'p', 's']

/-- The port of a scheme when none is written. -/
def Scheme.defaultPort :
    Scheme →
    Nat
  | .http => 80
  | .https => 443

end Url

/-- A web address. -/
structure Url where
  scheme : Url.Scheme
  userInfo : Option Url.UserInfo
  host : Url.Host
  port : Option Nat
  path : List (List Char)
  query : Option (List Char)
  fragment : Option (List Char)
  deriving DecidableEq

namespace Url

/-- Segments, each after a slash. -/
def pathText
    (segments : List (List Char)) :
    List Char :=
  segments.flatMap fun segment => '/' :: segment

/-- The host with the port, where one is written. -/
def authorityText
    (url : Url) :
    List Char :=
  match url.port with
  | none => url.host.text
  | some port => url.host.text ++ ':' :: Nat.toDigits 10 port

/-- The path with the query, as a server is asked for it. -/
def targetText
    (url : Url) :
    List Char :=
  match url.query with
  | none => pathText url.path
  | some query => pathText url.path ++ '?' :: query

/-- The whole address. -/
def text
    (url : Url) :
    String :=
  let userInfo := (url.userInfo.map UserInfo.text).getD []
  let fragment := (url.fragment.map ('#' :: ·)).getD []
  String.ofList
    (url.scheme.text ++ ':' :: '/' :: '/' :: userInfo ++ url.authorityText ++
      url.targetText ++ fragment)

/-! ## Adding segments and parameters -/

/-- Characters that are dropped wherever they stand. -/
def isDropped
    (c : Char) :
    Bool :=
  c = '\t' || c = '\n' || c = '\r'

/--
The path before segments are added: one empty segment at its end is dropped.
-/
def openPath
    (path : List (List Char)) :
    List (List Char) :=
  match path.reverse with
  | [] :: rest => rest.reverse
  | _ => path

/-- Whether a segment is a drive letter. -/
def isDriveLetter :
    List Char →
    Bool
  | [letter, mark] => letter.isAlpha && (mark = ':' || mark = '|')
  | _ => false

/-- The path of the place above. Nothing is above a drive letter. -/
def placeAbove
    (path : List (List Char)) :
    List (List Char) :=
  if path.getLast?.any isDriveLetter then path else path.dropLast

/-- A segment in the form in which a path holds it. -/
def encodeSegment
    (segment : String) :
    List Char :=
  Component.segment.encode (segment.toList.filter fun c => !isDropped c)

/--
Add one segment. A segment that means this place or the place above is left out;
where it only becomes one by losing characters, it stands for an empty segment,
in the place above for the latter.
-/
def addSegment
    (path : List (List Char))
    (segment : String) :
    List (List Char) :=
  if segment = "." ∨ segment = ".." then path
  else
    let base := if path = [[]] then [] else path
    let encoded := encodeSegment segment
    if encoded = ['.', '.'] then placeAbove base ++ [[]]
    else if encoded = ['.'] then base ++ [[]]
    else base ++ [encoded]

/-- The path that is not empty: a root has one empty segment. -/
def closePath
    (path : List (List Char)) :
    List (List Char) :=
  if path.isEmpty then [[]] else path

/-- The address with segments added to its path. -/
def withSegments
    (url : Url)
    (segments : List String) :
    Url :=
  { url with path := segments.foldl addSegment (closePath (openPath url.path)) }

/-- Form parameters. -/
def formText :
    List (String × String) →
    List Char
  | [] => []
  | [(key, value)] => encodeForm key.toList ++ '=' :: encodeForm value.toList
  | (key, value) :: rest =>
      encodeForm key.toList ++ '=' :: encodeForm value.toList ++ '&' ::
        formText rest

/-- The address with parameters added after its own query. -/
def withParameters
    (url : Url)
    (parameters : List (String × String)) :
    Url :=
  if parameters.isEmpty then url
  else
    let before :=
      match url.query with
      | none => []
      | some [] => []
      | some query => query ++ ['&']
    { url with query := some (before ++ formText parameters) }

/-- The address without user information. -/
def withoutUserInfo
    (url : Url) :
    Url :=
  { url with userInfo := none }

end Url

end WorkflowQueue
