import VulnScanner.Http.Fault
import VulnScanner.Http.Url
import VulnScanner.Octets.Form

/-!
# Requests and replies

A client turns what is asked for into a request. What the network makes of the request is given
from outside; a reply of any status is a result, and only failures of the network are errors.
-/

namespace VulnScanner.Http

/-- A request as it is sent. -/
structure Request where
  method : String
  url : Url
  /-- The headers, each name once, in the order in which the names came up. -/
  headers : List (String × Value) := []
  body : Option (List UInt8) := none
  timeout : Value
  /-- The certificate of the server is not looked at. -/
  isUnverified : Bool := false

/-- What the network makes of a request. -/
inductive Reply where
  | answer (status : Int) (body : List UInt8) (headers : List (String × String))
  | failure (fault : NetworkFault)

/-- An answer that has been read. -/
structure Response where
  status : Int
  body : String
  headers : List (String × String) := []
  deriving Repr

/-- Sets the field with a name, which is kept in place. -/
def putHeader {V : Type} (headers : List (String × V)) (name : String) (value : V) :
    List (String × V) :=
  if headers.any (·.1 == name) then
    headers.map fun h ↦ if h.1 = name then (name, value) else h
  else headers ++ [(name, value)]

/-- The name of a header of a request: its first letter is a capital and the others are small. -/
def capitalName (name : String) : String := String.ofList (Unicode.capitalize name.toList)

/-- The headers of a request; the last value for a name counts. -/
def requestHeaders (given : List (String × Value)) : List (String × Value) :=
  given.foldl (fun headers h ↦ putHeader headers (capitalName h.1) h.2) []

/-- Whether two names of headers are the same up to case. -/
def sameName (a b : String) : Bool := Unicode.lower a.toList == Unicode.lower b.toList

/-- The headers of an answer: each name as it is written, with the value that comes first for the
name in any case. -/
def answerHeaders (headers : List (String × String)) : List (String × String) :=
  headers.foldl
    (fun found h ↦
      let value := (headers.find? (sameName ·.1 h.1)).map (·.2)
      putHeader found h.1 (value.getD h.2))
    []

/-- Reads a reply. -/
def Reply.read : Reply → Except AdapterError Response
  | answer status body headers =>
    .ok { status := status, body := Octets.decodeLossy body, headers := answerHeaders headers }
  | failure fault => .error (.requestFailed fault)

/-- The document in an answer. -/
def Response.json (r : Response) : Except AdapterError Value :=
  (Json.parse r.body.toList).mapError (.invalidJson r.body.toList)

/-- A client with its settings. -/
structure Client where
  timeout : Value := .int 5
  verifies : Bool := true

namespace Client

/-- The request for a method and an address. Without a method a body is posted, and something
without a body is fetched. A missing time limit is that of the client. -/
def request (c : Client) (method : String) (url : String) (headers : List (String × Value))
    (body : Option (List UInt8)) (timeout : Value) : Except UrlFault Request := do
  let url ← Url.read url
  return {
    method := if method.isEmpty then (if body.isSome then "POST" else "GET") else method
    url := url
    headers := requestHeaders headers
    body := body
    timeout := match timeout with
      | .null => c.timeout
      | given => given
    isUnverified := !c.verifies }

/-- The request that fetches an address with parameters. -/
def get (c : Client) (url : String) (params : List (String × String))
    (headers : List (String × Value)) (timeout : Value) : Except UrlFault Request :=
  let url := if params.isEmpty then url else Url.withQuery url (Octets.Form.encodePairs params)
  c.request "GET" url headers none timeout

end Client
end VulnScanner.Http
