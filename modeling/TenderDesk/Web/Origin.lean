import TenderDesk.Text.Blank
import TenderDesk.Web.Request
import TenderDesk.Web.Response

/-!
# Origin — calls from pages of other web sites

A browser names the origin of a page that calls. Every answer to such a call admits credentials and
names the origin if it is one of those allowed. Before some calls a browser asks whether they would
be allowed; `preflight` answers that without any further look at the request.
-/

namespace TenderDesk
namespace Web
namespace Origin

def methods : List String :=
  ["GET", "POST", "PUT", "DELETE", "OPTIONS"]

def headers : List String :=
  ["accept", "accept-language", "content-language", "content-type", "authorization",
   "x-principal"]

/-- What is said about an origin in every answer to it. -/
def grants (allowed : List String) (origin : String) : List (String × String) :=
  ("access-control-allow-credentials", "true")
    :: if allowed.contains origin then [("access-control-allow-origin", origin)] else []

/-- What is wrong with a call that a browser asks about. -/
def objections (allowed : List String) (origin method : String) (named : Option String) :
    List String :=
  let origins := if allowed.contains origin then [] else ["origin"]
  let known := if methods.contains method then [] else ["method"]
  let listed := (named.map fun s => s.splitOn ",").getD []
  let admitted := if listed.all fun h => headers.contains (Text.strip (foldCase h)) then []
    else ["headers"]
  origins ++ known ++ admitted

/-- The answer to the question whether a call would be allowed. -/
def preflight (allowed : List String) (origin method : String) (named : Option String) :
    Response :=
  let answer := match objections allowed origin method named with
    | [] => Response.text 200 "OK"
    | objections => .text 400 ("Disallowed CORS " ++ ", ".intercalate objections)
  { answer with headers := answer.headers ++ grants allowed origin }

/-- The method that a browser asks about, if it asks. -/
def askedMethod? (r : Request) : Option String :=
  if r.method == "OPTIONS" then r.header? "access-control-request-method" else none

end Origin
end Web
end TenderDesk
