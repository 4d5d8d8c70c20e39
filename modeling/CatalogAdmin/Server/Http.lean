import CatalogAdmin.Json.Reading
import CatalogAdmin.Server.Client
import CatalogAdmin.Settings.Basic
import CatalogAdmin.Url.Basic

/-!
# Servers over HTTP

A query travels as one request: the statement is its body, parameters and the time limit are fields
of its address, user and password are headers. The answer to a query whose rows are wanted is JSON
with a list of rows. What the network does with a request is a parameter of `ServerSettings.server`.

* `requestBody`: a statement is sent without white space around it and semicolons behind it.
-/

namespace CatalogAdmin

/-- A request, to be posted. -/
structure HttpRequest where
  /-- Path and query of the address. -/
  target : Text
  user : Text
  key : Option Text
  body : Text
deriving DecidableEq, Repr

/-- What comes back for a request. -/
inductive HttpReply
  | unreachable (detail : Text)
  | silence
  | response (status : Nat) (body : Text)
deriving DecidableEq, Repr

/-- A network, by what comes back for a request to an address. -/
abbrev Network := Url → HttpRequest → HttpReply

/-! ## Requests -/

/-- The body of a request. -/
def requestBody (sent : Sent) : Text :=
  let statement := Text.dropEnd (· = ';') sent.query.text
  match sent.purpose with
  | .execute => statement
  | .fetch => statement ++ "\nFORMAT JSON"

/-- The fields of a request's address. The server is given whole seconds, at least one. -/
def requestFields (limit : Duration) (q : Query) : List (Text × Text) :=
  ("max_execution_time", Text.ofNat (max 1 limit.wholeSeconds))
    :: q.parameters.map fun (name, value) => ("param_" ++ name, value)

/-- Whether a text may be the value of a header. -/
def isHeaderValue (t : Text) : Bool := t.all fun c => c = '\t' || (' ' ≤ c && c ≠ '\x7f')

namespace ServerSettings

/-- The time limit of a query. -/
def limit (s : ServerSettings) (q : Query) : Duration := q.timeout.getD s.timeouts.query

/-- The address requests go to, if it is one that requests can go to. -/
def address? (s : ServerSettings) : Option Url := do
  let url ← Url.parse? (Text.dropEnd (· = '/') s.url ++ "/")
  if url.scheme = "http" || url.scheme = "https" then some url else none

/-- The request for a query, and where it goes; none if it cannot be made. -/
def request? (s : ServerSettings) (sent : Sent) : Option (Url × HttpRequest) := do
  let url ← s.address?
  guard (isHeaderValue s.user && s.password.all isHeaderValue)
  let fields := Url.formQuery (requestFields (s.limit sent.query) sent.query)
  let query :=
    match url.query with
    | none => fields
    | some [] => fields
    | some before => before ++ '&' :: fields
  let request : HttpRequest :=
    { target := url.path ++ '?' :: query, user := s.user, key := s.password,
      body := requestBody sent }
  return (url, request)

end ServerSettings

/-! ## Answers -/

/-- The members of an object. -/
def Json.row? : Json → Option Row
  | .object members => some members
  | _ => none

/-- The rows of an answer: the one list named `data` of an object, or the only item of a list. -/
def Json.rows? : Json → Option (List Row)
  | .object members =>
    match members.filter (·.1 = ("data" : Text)) with
    | [(_, .array items)] => items.mapM Json.row?
    | _ => none
  | .array [.array items] => items.mapM Json.row?
  | _ => none

/-- What a reply means for a query with this time limit. -/
def HttpReply.rows (limit : Duration) (purpose : Purpose) :
    HttpReply → Except ClientError (List Row)
  | .unreachable detail => .error (.http detail)
  | .silence => .error (.timeout limit)
  | .response status body =>
    if status < 200 ∨ 300 ≤ status then .error (.server status body.trim)
    else match purpose with
      | .execute => .ok []
      | .fetch =>
        match (Json.parse? body).bind Json.rows? with
        | some rows => .ok rows
        | none => .error (.decode "the response holds no list of rows")

/-- The server that the settings tell how to reach, over a network. -/
def ServerSettings.server (s : ServerSettings) (network : Network) : Server :=
  .ofAnswers fun _ sent =>
    match s.request? sent with
    | none => .error (.http "the request cannot be made")
    | some (url, request) => (network url request).rows (s.limit sent.query) sent.purpose

/-- A network over which nothing can be reached. -/
def Network.none : Network := fun _ _ => .unreachable "no connection"

end CatalogAdmin
