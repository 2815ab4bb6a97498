import TenderDesk.Desk.Documents
import TenderDesk.Desk.Events

/-!
# Call — the operations of the desk as values

* `Call.Result` is the type of what an operation gives when it succeeds.
* `Call.perform` does the operation, `Call.visit` does it in a session of its own.
-/

namespace TenderDesk
namespace Desk

inductive Call
  | createEvent (project : Int) (request : NewEvent) (downSelected : Bool) (principal : String)
  | updateEvent (project : Int) (event : String) (edit : EventEdit) (principal : String)
  | getEvent (project : Int) (event principal : String)
  | listEvents (project : Int) (principal : String)
  | publishEvent (project : Int) (event : String) (dates : Publication) (principal : String)
  | listSuppliers (project : Int) (event : String)
  | addSuppliers (project : Int) (event : String) (refs : List SupplierRef) (overwrite : Bool)
    (principal : String)
  | deleteSupplier (project : Int) (event organisation principal : String)
  | listDocuments (project : Int) (event : String)
  | uploadDocument (project : Int) (event : String) (upload : Upload)
  | getDocument (project : Int) (event document : String)
  deriving DecidableEq, Repr

namespace Call

abbrev Result : Call → Type
  | .createEvent _ _ _ _ | .updateEvent _ _ _ _ => EventSummary
  | .getEvent _ _ _ => EventDetail
  | .listEvents _ _ => List EventSummary
  | .listSuppliers _ _ | .addSuppliers _ _ _ _ _ => List SupplierRef
  | .publishEvent _ _ _ _ | .deleteSupplier _ _ _ _ => Unit
  | .listDocuments _ _ => List Document.Summary
  | .uploadDocument _ _ _ => Document.Summary
  | .getDocument _ _ _ => Document.File

variable {ω : Type}

def perform (s : Settings) : (c : Call) → Action ω c.Result
  | .createEvent project request downSelected principal =>
      Desk.createEvent s project request downSelected principal
  | .updateEvent project event edit principal => Desk.updateEvent s project event edit principal
  | .getEvent project event principal => Desk.getEvent s project event principal
  | .listEvents project principal => Desk.listEvents s project principal
  | .publishEvent project event dates principal =>
      Desk.publishEvent s project event dates principal
  | .listSuppliers project event => Desk.listSuppliers s project event
  | .addSuppliers project event refs overwrite principal =>
      Desk.addSuppliers s project event refs overwrite principal
  | .deleteSupplier project event organisation principal =>
      Desk.deleteSupplier s project event organisation principal
  | .listDocuments project event => Desk.listDocuments s project event
  | .uploadDocument project event upload => Desk.uploadDocument s project event upload
  | .getDocument project event document => Desk.getDocument s project event document

/-- Performs a call in a session of its own, which begins with the saved store. -/
def visit (s : Settings) (surroundings : Surroundings ω) (c : Call) (saved : Store) (memory : ω) :
    Except Failure c.Result × Run ω :=
  c.perform s surroundings (.start saved memory)

end Call
end Desk
end TenderDesk
