import Skeletal.Service.Implementation

/-!
# Routes

Requests and the endpoints that answer them. Slashes at the end of a path and what follows a
question mark or a number sign make no difference. An unknown path is refused before the method
is looked at, and the method before the body.
-/

set_option autoImplicit false

namespace Skeletal.Service

/-- A request; the path is as it was sent. -/
structure Request where
  method : String
  path : String
  body : Option Payload

/-- What the service can be asked for. -/
inductive Endpoint where
  | health
  | types
  | source
  | archive
  | page
  deriving DecidableEq, Repr

/-- Endpoints by their paths. -/
def endpoints : List (String × Endpoint) :=
  [("/health", .health), ("/types", .types), ("/implement/source", .source),
    ("/implement/jar", .archive), ("/docs", .page), ("/docs/oauth2-redirect", .page),
    ("/redoc", .page)]

/-- Methods that an endpoint answers. -/
def Endpoint.methods : Endpoint → List String
  | .health => ["GET"]
  | .types | .source | .archive => ["POST"]
  | .page => ["GET", "HEAD"]

/-- Path that endpoints are looked up by. -/
def routePath (sent : String) : String :=
  let path := sent.toList.takeWhile fun c => c ≠ '?' ∧ c ≠ '#'
  let rooted := if path.head? = some '/' then path else '/' :: path
  String.ofList (rooted.reverse.dropWhile (· = '/')).reverse

/-- Work with what a body holds. -/
def withBody {α : Type} (checked : Checked α) (work : α → Serving Response) :
    Serving Response := do
  work (← ofResult Response.invalid checked)

/-- Work of an endpoint. -/
def Endpoint.serve (s : Settings) (body : Option Payload) : Endpoint → Serving Response
  | .health => return .success .alive
  | .types => withBody (submittedFiles body) graphOf
  | .source => withBody (Submission.ofBody body) (sourceOf s)
  | .archive => withBody (Submission.ofBody body) (archiveOf s)
  | .page => return .success .empty

/-- Outcome of a service computation and the workshop after it. -/
def Serving.outcome (work : Serving Response) (w : Workshop) : Response × Workshop :=
  let (result, w) := work.run.run w
  match result with
  | .ok response => (response, w)
  | .error response => (response, w)

/-- Response to a request before its method is looked at for what may be sent back. -/
def route (s : Settings) (w : Workshop) (method : String) (r : Request) : Response × Workshop :=
  match endpoints.lookup (routePath r.path) with
  | none => (.refusal 404 "Not Found", w)
  | some endpoint =>
    if method ∈ endpoint.methods then (endpoint.serve s r.body).outcome w
    else (.refusal 405 "Method Not Allowed", w)

/-- Response to a request and the workshop after it. A request for the head alone gets no
content. -/
def respond (s : Settings) (w : Workshop) (r : Request) : Response × Workshop :=
  let method := r.method.toUpper
  let (response, w) := route s w method r
  (if method = "HEAD" then response.withoutContent else response, w)

end Skeletal.Service
