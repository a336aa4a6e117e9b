import WorkflowQueue.Json.Value
import WorkflowQueue.Text.Split

namespace WorkflowQueue

/-!
# Requests

One request to the queue, before it is put on any wire. The path is kept as
separate segments, so an identity may hold any character without becoming part
of the route.
-/

/-- The methods that the queue knows. -/
inductive Method where
  | get
  | post
  | patch
  deriving DecidableEq

/-- One request, relative to the root of the queue. -/
structure Request where
  method : Method
  segments : List String
  query : List (String × String)
  body : Option Json

namespace Request

/-- Equality of requests; bodies are compared as JSON values. -/
def same
    (left right : Request) :
    Bool :=
  left.method == right.method && left.segments == right.segments &&
    left.query == right.query && left.body == right.body

instance : BEq Request where
  beq := same

/-- The segments of a route: the pieces between slashes that are not empty. -/
def splitPath
    (path : String) :
    List String :=
  ((Text.splitOn '/' path.toList).filter fun piece => !piece.isEmpty).map
    String.ofList

/-- A request for a route. -/
def ofPath
    (method : Method)
    (path : String)
    (body : Option Json) :
    Request where
  method := method
  segments := splitPath path
  query := []
  body := body

/-- A reading request, which has no body. -/
def get
    (path : String) :
    Request :=
  ofPath .get path none

/-- A request that creates something. -/
def post
    (path : String)
    (body : Json) :
    Request :=
  ofPath .post path (some body)

/-- A request that changes something. -/
def patch
    (path : String)
    (body : Json) :
    Request :=
  ofPath .patch path (some body)

/-- Append one segment, whatever its characters. -/
def withSegment
    (request : Request)
    (segment : String) :
    Request :=
  { request with segments := request.segments ++ [segment] }

/-- Append one query parameter. -/
def withQuery
    (request : Request)
    (key value : String) :
    Request :=
  { request with query := request.query ++ [(key, value)] }

/-- The segments, each after a slash. -/
def path
    (request : Request) :
    String :=
  request.segments.foldl (fun path segment => path ++ "/" ++ segment) ""

/-- The value of the first query parameter of a name. -/
def queryParam?
    (request : Request)
    (key : String) :
    Option String :=
  request.query.lookup key

end Request

end WorkflowQueue
