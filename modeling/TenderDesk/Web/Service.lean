import TenderDesk.Web.Call
import TenderDesk.Web.Origin

/-!
# Service — the desk on the web

* A `Gate` tells who may come in.
* `serve` answers every request. A request has to have a readable body, then a valid token, and only
  then its parts are looked at; whatever is refused before that never reaches the desk.
-/

namespace TenderDesk
namespace Web

open Schema

structure Gate where
  /-- The token that callers have to show. -/
  token : Option String
  /-- The web origins whose pages may call. -/
  origins : List String := ["http://localhost:5173"]
  /-- The services that the desk depends on are there. -/
  isReady : Bool := true
  deriving DecidableEq, Repr

/-! ## Tokens -/

/-- Scheme and credentials of an authorization. -/
def splitAuthorization (s : String) : String × String :=
  let scheme := s.toList.takeWhile (· != ' ')
  (String.ofList scheme, String.ofList (s.toList.drop (scheme.length + 1)))

/-- The token that a request shows in the bearer scheme. -/
def bearerToken? (r : Request) : Option String := do
  let authorization ← r.header? "authorization"
  let (scheme, token) := splitAuthorization authorization
  if foldCase scheme == "bearer" then some token else none

/-- The refusal of a request that shows no bearer token. -/
def unauthenticated : Response :=
  let answer := Response.detail 401 "Not authenticated"
  { answer with headers := answer.headers ++ [("www-authenticate", "Bearer")] }

/-- Lets requests with the right token pass. -/
def authenticate (gate : Gate) (r : Request) : Except Response Unit :=
  match bearerToken? r with
  | none => .error unauthenticated
  | some token =>
      if some token = gate.token then .ok ()
      else .error (.detail 401 "Invalid or missing token")

/-! ## Requests -/

/-- The body of a request for an operation; forms are read field by field, and an operation that
takes no body does not read it. -/
def bodyFor (r : Request) : Operation → Except Response (Option Json)
  | .createEvent _ | .updateEvent _ _ | .publishEvent _ _ | .addSuppliers _ _ => bodyValue r
  | _ => .ok none

/-- An operation that needs the services that the desk depends on. -/
def needsServices : Operation → Bool
  | .listKinds => false
  | _ => true

/-- The call that a request for an operation makes. -/
def callOf (gate : Gate) (r : Request) (operation : Operation) : Except Response Call :=
  match bodyFor r operation with
  | .error response => .error response
  | .ok body =>
      match authenticate gate r with
      | .error response => .error response
      | .ok () =>
          if needsServices operation && !gate.isReady then
            .error (.detail 503 "Service not configured")
          else match Call.ofParts r body operation with
            | .ok call => .ok call
            | .error faults => .error (.ofFaults faults)

variable {ω : Type}

/-- Makes a call, and answers with what went wrong when it fails. -/
def answerCall (s : Settings) (call : Call) : Desk.Action ω Response := do
  match ← Desk.Action.attempt (call.perform s) with
  | .ok response => pure response
  | .error failure => pure (.ofFailure failure)

/-- Answers a request, without regard to where it comes from. -/
def dispatch (gate : Gate) (s : Settings) (r : Request) : Desk.Action ω Response :=
  match r.target with
  | .unknown => pure .notFound
  | .redirect => pure .redirect
  | .otherMethod => pure .methodNotAllowed
  | .operation operation =>
      match callOf gate r operation with
      | .ok call => answerCall s call
      | .error response => pure response

/-- The answer with what is said about the origin of the request. An answer about an internal error
says nothing. -/
def withGrants (allowed : List String) (origin : String) (response : Response) : Response :=
  if response.status = 500 then response
  else { response with headers := response.headers ++ Origin.grants allowed origin }

def serve (gate : Gate) (s : Settings) (r : Request) : Desk.Action ω Response :=
  match r.header? "origin" with
  | none => dispatch gate s r
  | some origin =>
      match Origin.askedMethod? r with
      | some method =>
          pure (Origin.preflight gate.origins origin method
            (r.header? "access-control-request-headers"))
      | none => do
          let response ← dispatch gate s r
          pure (withGrants gate.origins origin response)

end Web
end TenderDesk
