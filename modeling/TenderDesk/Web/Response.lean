import TenderDesk.Failure
import TenderDesk.Document.Summary

/-!
# Response — what the desk answers over the web

A failure that a caller should know about becomes a JSON body with status, title and detail. Any
other failure says nothing about itself.
-/

namespace TenderDesk
namespace Web

inductive Content
  | empty
  | json (value : Json)
  | text (value : String)
  | octets (bytes : List UInt8)
  deriving DecidableEq, Repr

structure Response where
  status : Nat
  /-- Headers with their names in lower case; a value has one octet for each character. -/
  headers : List (String × String) := []
  content : Content := .empty
  deriving DecidableEq, Repr

namespace Response

def header? (r : Response) (name : String) : Option String :=
  (r.headers.find? fun h => h.1 == name).map (·.2)

def json (status : Nat) (value : Json) : Response :=
  { status, headers := [("content-type", "application/json")], content := .json value }

def plainType : String :=
  "text/plain; charset=utf-8"

def text (status : Nat) (value : String) : Response :=
  { status, headers := [("content-type", plainType)], content := .text value }

def ok (value : Json) : Response :=
  json 200 value

/-- An answer that only tells what is wrong with a request. -/
def detail (status : Nat) (message : String) : Response :=
  json status (.obj [("detail", .str message)])

def internalError : Response :=
  text 500 "Internal Server Error"

def notFound : Response :=
  detail 404 "Not Found"

def methodNotAllowed : Response :=
  detail 405 "Method Not Allowed"

/-- Sends the caller to the same path without a slash at its end. -/
def redirect : Response :=
  { status := 307 }

def unreadableBody : Response :=
  detail 400 "There was an error parsing the body"

/-- All faults of a request at once. -/
def ofFaults (faults : List Schema.Fault) : Response :=
  json 422 (.obj [("detail", .arr (faults.map Schema.Fault.json))])

/-! ## Failures -/

/-- Status and title for a category of failures that callers are told about. -/
def headline : Category → Option (Nat × String)
  | .notFound => some (404, "Resource not found")
  | .invalid => some (400, "Validation error processing the request")
  | .forbidden => some (403, "Access to the requested resource is forbidden")
  | .conflict => some (409, "Operation not allowed in the current event state")
  | .platform => some (502, "Error communicating with the remote sourcing platform")
  | .internal => none

def ofFailure (failure : Failure) : Response :=
  match headline failure.category with
  | some (status, title) =>
      json status (.obj [("errors", .arr [.obj [("status", .int status), ("title", .str title),
        ("detail", .str failure.message)]])])
  | none => internalError

/-! ## Files -/

/-- A text that a header can carry, with one octet for each character. -/
def isHeaderText (s : String) : Bool :=
  s.toList.all fun c => c.toNat < 256

/-- A text that occurs in another one. -/
def occursIn (part : List Char) : List Char → Bool
  | [] => part.isEmpty
  | c :: cs => part.isPrefixOf (c :: cs) || occursIn part cs

/-- The type of a file's content; text is taken to be UTF-8 where nothing else is said. -/
def contentType (given : Option String) : String :=
  let type := (given.filter fun s => !s.isEmpty).getD "application/octet-stream"
  if "text/".toList.isPrefixOf type.toList
      && !occursIn "charset=".toList (type.toList.map Char.toLower) then
    type ++ "; charset=utf-8"
  else type

/-- A file to be saved under its name, where a header can carry the name. -/
def ofFile (file : Document.File) : Response :=
  let type := contentType file.contentType
  let disposition := "attachment; filename=" ++ file.name
  if isHeaderText type && isHeaderText disposition then
    { status := 200
      headers := [("content-disposition", disposition), ("content-type", type)]
      content := .octets file.data }
  else internalError

end Response
end Web
end TenderDesk
