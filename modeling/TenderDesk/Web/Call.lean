import TenderDesk.Desk.Call
import TenderDesk.Json.Parser
import TenderDesk.Web.Response
import TenderDesk.Web.Route

/-!
# Call — a request as a call of the desk

* `Call.ofRequest` reads all parts of a request for an operation and joins their faults.
* `Call.perform` does what was asked for, and gives the answer.
-/

namespace TenderDesk
namespace Web

open Schema

inductive Call
  | listKinds
  | desk (call : Desk.Call)
  deriving DecidableEq, Repr

/-! ## Parts of requests -/

/-- The principal on whose behalf a request is made. -/
def principalOf (r : Request) : Checked String :=
  ((match r.header? "x-principal" with
    | some principal => .ok principal
    | none => .problem .missing : Checked String).under (.name "X-Principal")).under (.name "header")

/-- The number of a project in a path. -/
def projectOf (project : String) : Checked Int :=
  ((Codec.wholeOfText project).under (.name "proc_id")).under (.name "path")

/-- A flag in a query, which may be left out. -/
def flagOf (r : Request) (name : String) : Checked Bool :=
  (((r.query? name).map Codec.flagOfText).getD (.ok false)).under (.name name)
    |>.under (.name "query")

/-- A fault of a body: a body that is no record is told apart from a part of it that is none. -/
def asBodyFault (f : Fault) : Fault :=
  match f.problem with
  | .record => { f with problem := .recordBody }
  | _ => f

/-- Reads the value that a body has. -/
def readBody {α : Type} (c : Codec α) (j : Json) : Checked α :=
  (match c.read j with
    | .ok a => .ok a
    | .error fs => .faults (fs.map asBodyFault) : Checked α).under (.name "body")

/-- The body that an operation cannot do without. -/
def requiredBody {α : Type} (c : Codec α) : Option Json → Checked α
  | some j => readBody c j
  | none => (.problem .missing : Checked α).under (.name "body")

/-- The value in the text of a body; null and no text at all are no value. -/
def bodyValue (r : Request) : Except Response (Option Json) :=
  match r.body with
  | .empty => .ok none
  | .json text =>
      let text := if text.startsWith "\ufeff" then String.ofList (text.toList.drop 1) else text
      if text.isEmpty then .ok none
      else match Json.parse r.room text with
        | .ok .null => .ok none
        | .ok j => .ok (some j)
        | .error f =>
            if f.isSyntax then .error (.ofFaults [⟨[.name "body", .index f.offset], .unreadable⟩])
            else .error .unreadableBody
  | .form [] => .ok none
  | .form _ => .ok (some (.str ""))

/-! ## Forms -/

/-- A text in a form; an empty one counts as left out. -/
def formText? (r : Request) (name : String) : Option String :=
  match r.field? name with
  | some (.text s) => if s.isEmpty then none else some s
  | _ => none

/-- The file of a form. -/
def formFile (r : Request) : Checked (String × List UInt8) :=
  ((match r.field? "data" with
    | some (.file name data) => .ok (name, data)
    | some (.text s) =>
        if s.isEmpty then .problem .missing
        else .problem (.rule "Expected UploadFile, received: <class 'str'>")
    | none => .problem .missing : Checked (String × List UInt8)).under (.name "data"))
    |>.under (.name "body")

def formAudience (r : Request) : Checked Document.Audience :=
  ((match formText? r "audience" with
    | some s => Document.Audience.codec.read (.str s)
    | none => .problem .missing : Checked Document.Audience).under (.name "audience"))
    |>.under (.name "body")

/-- The upload that a form asks for. -/
def uploadOf (r : Request) : Checked Desk.Upload :=
  (fun file audience =>
    { fileName := file.1, data := file.2, audience, description := formText? r "description" })
    <$> formFile r <*> formAudience r

/-! ## Calls -/

namespace Call

/-- The call that a request for an operation makes, given the value of its body. -/
def ofParts (r : Request) (body : Option Json) : Operation → Checked Call
  | .listKinds => .ok .listKinds
  | .createEvent p =>
      (fun principal project flag request => .desk (.createEvent project request flag principal))
        <$> principalOf r <*> projectOf p <*> flagOf r "down-selected-suppliers"
        <*> (match body with
          | some j => readBody NewEvent.codec j
          | none => .ok {})
  | .listEvents p =>
      (fun principal project => .desk (.listEvents project principal))
        <$> principalOf r <*> projectOf p
  | .getEvent p event =>
      (fun principal project => .desk (.getEvent project event principal))
        <$> principalOf r <*> projectOf p
  | .updateEvent p event =>
      (fun principal project edit => .desk (.updateEvent project event edit principal))
        <$> principalOf r <*> projectOf p <*> requiredBody EventEdit.codec body
  | .publishEvent p event =>
      (fun principal project dates => .desk (.publishEvent project event dates principal))
        <$> principalOf r <*> projectOf p <*> requiredBody Publication.codec body
  | .listSuppliers p event =>
      (fun project => .desk (.listSuppliers project event)) <$> projectOf p
  | .addSuppliers p event =>
      (fun principal project overwrite refs =>
        .desk (.addSuppliers project event refs overwrite principal))
        <$> principalOf r <*> projectOf p <*> flagOf r "overwrite"
        <*> requiredBody (.list SupplierRef.codec) body
  | .deleteSupplier p event supplier =>
      (fun principal project => .desk (.deleteSupplier project event supplier principal))
        <$> principalOf r <*> projectOf p
  | .listDocuments p event =>
      (fun project => .desk (.listDocuments project event)) <$> projectOf p
  | .uploadDocument p event =>
      (fun project upload => .desk (.uploadDocument project event upload))
        <$> projectOf p <*> uploadOf r
  | .getDocument p event document =>
      (fun project => .desk (.getDocument project event document)) <$> projectOf p

/-- The answer that lists values. -/
def listed {α : Type} (c : Codec α) (xs : List α) : Response :=
  .ok (.arr (xs.map c.full))

/-- The answer with the result of an operation. -/
def answer : (call : Desk.Call) → call.Result → Response
  | .createEvent _ _ _ _, summary | .updateEvent _ _ _ _, summary =>
      .ok (EventSummary.codec.full summary)
  | .getEvent _ _ _, detail => .ok (EventDetail.codec.full detail)
  | .listEvents _ _, summaries => listed EventSummary.codec summaries
  | .listSuppliers _ _, refs | .addSuppliers _ _ _ _ _, refs => listed SupplierRef.codec refs
  | .publishEvent _ _ _ _, () | .deleteSupplier _ _ _ _, () => .ok (.str "OK")
  | .listDocuments _ _, documents => listed Document.Summary.codec documents
  | .uploadDocument _ _ _, document => .ok (Document.Summary.codec.full document)
  | .getDocument _ _ _, file => .ofFile file

variable {ω : Type}

def perform (s : Settings) : Call → Desk.Action ω Response
  | .listKinds => pure (.ok (.arr (EventKind.all.map fun k => .str k.name)))
  | .desk call => answer call <$> call.perform s

end Call
end Web
end TenderDesk
