import WorkflowQueue.Url.Reader

namespace WorkflowQueue.Url

/-!
# References

A reference names an address as it is seen from another one. It is a whole
address, or leaves out the scheme, the host or the path, and then has those of
the address that it is seen from. What holds other characters than a reference
may hold, or has no host in the end, names nothing that can be asked for.
-/

/-- Whether a reference may hold a character. -/
def isReferenceChar
    (c : Char) :
    Bool :=
  c.isAlphanum || "-._~:/?#[]@!$&()*+,;=%\x27".toList.contains c

/-- The scheme and the host of an address, with the user that it names. -/
def originText
    (url : Url) :
    List Char :=
  let userInfo := (url.userInfo.map UserInfo.text).getD []
  url.scheme.text ++ ':' :: '/' :: '/' :: userInfo ++ url.authorityText

/-- A reference without a scheme, completed by the address it is seen from. -/
def completed
    (base : Url)
    (reference : List Char) :
    List Char :=
  match reference with
  | '/' :: '/' :: _ => base.scheme.text ++ ':' :: reference
  | '/' :: _ => base.originText ++ reference
  | '?' :: _ => base.originText ++ pathText base.path ++ reference
  | '#' :: _ | [] => base.originText ++ base.targetText ++ reference
  | _ => base.originText ++ pathText base.path.dropLast ++ '/' :: reference

/-- The address without its fragment. -/
def withoutFragment
    (url : Url) :
    Url :=
  { url with fragment := none }

/--
The address that a reference names, or what is wrong with it. A reference that
cannot be asked for at all names nothing.
-/
def named?
    (base : Url)
    (reference : List Char) :
    Option (Except Fault Url) :=
  let text :=
    match splitScheme? reference with
    | none => base.completed reference
    | some _ => reference
  match splitScheme? text with
  | some (_, '/' :: '/' :: c :: _) =>
      if endsAuthority true c || !reference.all isReferenceChar then none
      else some ((read text).map withoutFragment)
  | _ => none

/-- Where the server of an address is: its host and the number of its port. -/
def place
    (url : Url) :
    Host × Nat :=
  (url.host, url.port.getD url.scheme.defaultPort)

end WorkflowQueue.Url
