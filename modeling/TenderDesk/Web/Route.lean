import TenderDesk.Web.Request

/-!
# Route — which operation a request is for

A path names a `Route`, and the method then picks one of its operations. A path that is a route but
for slashes at its end is redirected.
-/

namespace TenderDesk
namespace Web

inductive Route
  | kinds
  | events (project : String)
  | event (project event : String)
  | publication (project event : String)
  | suppliers (project event : String)
  | supplier (project event supplier : String)
  | documents (project event : String)
  | document (project event document : String)
  deriving DecidableEq, Repr

inductive Operation
  | listKinds
  | createEvent (project : String)
  | listEvents (project : String)
  | getEvent (project event : String)
  | updateEvent (project event : String)
  | publishEvent (project event : String)
  | listSuppliers (project event : String)
  | addSuppliers (project event : String)
  | deleteSupplier (project event supplier : String)
  | listDocuments (project event : String)
  | uploadDocument (project event : String)
  | getDocument (project event document : String)
  deriving DecidableEq, Repr

namespace Route

/-- The route below an event of a project. -/
def ofEventParts? (project name : String) : List String → Option Route
  | [] => some (.event project name)
  | ["publish"] => some (.publication project name)
  | ["suppliers"] => some (.suppliers project name)
  | ["suppliers", id] => if id.isEmpty then none else some (.supplier project name id)
  | ["documents"] => some (.documents project name)
  | ["documents", id] => if id.isEmpty then none else some (.document project name id)
  | _ => none

/-- The route that the parts of a path name. -/
def ofSegments? : List String → Option Route
  | ["", "tenders", "event-types"] => some .kinds
  | ["", "tenders", "projects", project, "events"] =>
      if project.isEmpty then none else some (.events project)
  | "" :: "tenders" :: "projects" :: project :: "events" :: name :: parts =>
      if project.isEmpty || name.isEmpty then none else ofEventParts? project name parts
  | _ => none

/-- What a method does on a route. -/
def operation? (route : Route) (method : String) : Option Operation :=
  match route, method with
  | .kinds, "GET" => some .listKinds
  | .events p, "POST" => some (.createEvent p)
  | .events p, "GET" => some (.listEvents p)
  | .event p e, "GET" => some (.getEvent p e)
  | .event p e, "PUT" => some (.updateEvent p e)
  | .publication p e, "PUT" => some (.publishEvent p e)
  | .suppliers p e, "GET" => some (.listSuppliers p e)
  | .suppliers p e, "POST" => some (.addSuppliers p e)
  | .supplier p e s, "DELETE" => some (.deleteSupplier p e s)
  | .documents p e, "GET" => some (.listDocuments p e)
  | .documents p e, "PUT" => some (.uploadDocument p e)
  | .document p e d, "GET" => some (.getDocument p e d)
  | _, _ => none

end Route

/-- What a request turns out to be for. -/
inductive Target
  | operation (operation : Operation)
  | otherMethod
  | redirect
  | unknown
  deriving DecidableEq, Repr

/-- The parts of a path without the slashes at its end. -/
def withoutEndSlashes (segments : List String) : List String :=
  (segments.reverse.dropWhile String.isEmpty).reverse

def Request.target (r : Request) : Target :=
  match Route.ofSegments? r.segments with
  | some route =>
      match route.operation? r.method with
      | some operation => .operation operation
      | none => .otherMethod
  | none =>
      if (Route.ofSegments? (withoutEndSlashes r.segments)).isSome then .redirect else .unknown

end Web
end TenderDesk
