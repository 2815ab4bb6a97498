import TenderDesk.Desk.Suppliers
import TenderDesk.Document.Check

/-!
# Documents — the attachments of an event

Documents are kept on the record of an event only, and are read anew each time.
-/

namespace TenderDesk
namespace Desk

open Sourcing Document

variable {ω : Type}

/-- The record that holds the documents of an event. -/
def documentRecord (row : Row) : Except Failure String :=
  match EventKind.ofName row.kind with
  | .ok kind =>
      match kind.owner, row.record? with
      | .platform, some record => .ok record
      | _, _ => .error (.documentsUnowned row.publicId row.kind)
  | .error failure => .error failure

def documentsOf (settings : Settings) (row : Row) : Action ω (List Summary) := do
  let record ← .ofExcept (documentRecord row)
  let snapshot ← fetchRecord settings.platform record
  .ofExcept (Summary.listed snapshot)

/-- The change that sends one attachment and nothing else. -/
def attachmentChange (row : Row) (fileName : String) (description : Option String) :
    Audience → Rfx :=
  let attachments : AttachmentList :=
    { attachments := .set [{ name := .set fileName, description := .ofOption description }] }
  fun
  | .buyer => { Rfx.key row.externalId row.reference with buyerAttachments := .set attachments }
  | .supplier => { Rfx.key row.externalId row.reference with sellerAttachments := .set attachments }

/-- Refuses a file for which there is no room left. -/
def checkTotal (rules : DocumentRules) (row : Row) (documents : List Summary) (size : Nat) :
    Except Failure Unit :=
  if rules.maxTotal < Summary.totalSize documents + size then
    .error (.totalTooLarge row.publicId rules.maxTotal (Summary.totalSize documents)
      documents.length)
  else .ok ()

/-- What is to be uploaded. -/
structure Upload where
  fileName : String
  data : List UInt8
  audience : Audience
  description : Option String := none
  deriving DecidableEq, Repr

def uploadTo (settings : Settings) (row : Row) (upload : Upload) : Action ω Summary := do
  let _ ← .ofExcept (documentRecord row)
  .ofExcept (checkFile settings.documents upload.fileName upload.data.length)
  let present ← documentsOf settings row
  .ofExcept (checkTotal settings.documents row present upload.data.length)
  let change := attachmentChange row upload.fileName upload.description upload.audience
  let _ ← uploadFile settings.platform upload.fileName upload.data ⟨.createUpdate, change⟩
  -- The platform alone knows how it stored the file, so the documents are fetched again.
  let documents ← documentsOf settings row
  .ofOption .uploadLost (documents.find? fun d => d.name == upload.fileName)

def fileOf (settings : Settings) (row : Row) (id : String) : Action ω File := do
  let _ ← .ofExcept (documentRecord row)
  let key ← .ofExcept (Key.ofId id)
  fetchFile settings.platform key

/-! ## By event id -/

def listDocuments (settings : Settings) (project : Int) (event : String) :
    Action ω (List Summary) := do
  let row ← findEvent settings project event
  documentsOf settings row

def uploadDocument (settings : Settings) (project : Int) (event : String) (upload : Upload) :
    Action ω Summary := do
  let row ← findEvent settings project event
  uploadTo settings row upload

def getDocument (settings : Settings) (project : Int) (event id : String) : Action ω File := do
  let row ← findEvent settings project event
  fileOf settings row id

end Desk
end TenderDesk
