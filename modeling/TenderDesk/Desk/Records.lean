import TenderDesk.Desk.Action
import TenderDesk.Document.Summary
import TenderDesk.Event.Publication
import TenderDesk.Sourcing.Answer
import TenderDesk.Sourcing.Wire

/-!
# Records — working on the records of the platform

Every operation here sends one request, and repeats nothing.

* `writeRecord` creates or changes a record, `uploadFile` changes one and sends a file along, and
  `publishRecord` publishes one.
* `fetchRecord` and `fetchFile` read.
-/

namespace TenderDesk
namespace Desk

open Sourcing

variable {ω : Type}

/-- Goes on with what the platform did right. -/
def ofPlatform {α : Type} : Except PlatformFault α → Action ω α
  | .ok a => pure a
  | .error fault => .fail (.platform fault)

/-- Sends a request, where the settings tell its address. -/
def exchange (p : Platform) (request : Request) : Action ω Reply := do
  -- Without an address nothing is sent.
  let _ ← .ofExcept (request.wire p)
  .ask (.exchange request)

/-- Sends a request, and reads the answer as JSON. -/
def exchangeJson (p : Platform) (request : Request) : Action ω Json := do
  let reply ← exchange p request
  .ofExcept (reply.json request.endpoint)

/-! ## Writing -/

/-- What the answer to a command is called in messages. -/
def answerName (command : Command) : String :=
  "Rfx " ++ command.name

def writeRecord (p : Platform) (command : Command) (rfx : Rfx) : Action ω Receipt := do
  let answer ← exchangeJson p (.write ⟨command, rfx⟩)
  ofPlatform (Receipt.ofFullAnswer (answerName command) command.name answer)

def uploadFile (p : Platform) (fileName : String) (data : List UInt8) (change : Change) :
    Action ω Receipt := do
  let answer ← exchangeJson p (.upload fileName data change)
  ofPlatform (Receipt.ofLooseAnswer "document upload" answer)

/-- The order to publish a record until the closing date. -/
def publishOrder (id : String) (reference : Option String) (dates : Publication) (user : String) :
    PublishOrder :=
  { id, reference := .ofOption reference, operator := { id := .set user },
    closing := .set dates.closing.text }

def publishRecord (p : Platform) (order : PublishOrder) : Action ω Receipt := do
  let answer ← exchangeJson p (.publish order)
  ofPlatform (Receipt.ofLooseAnswer "publish" answer)

/-! ## Reading -/

def fetchRecord (p : Platform) (id : String) : Action ω Snapshot := do
  let answer ← exchangeJson p (.showRecord id)
  .ofExcept (Snapshot.ofExport id answer)

/-- The file in a reply; status 404 says that there is none. -/
def fileOfReply (key : Document.Key) (reply : Reply) : Except Failure Document.File :=
  match reply.content (Request.showFile key).endpoint with
  | .ok (body, contentType) => .ok { name := key.name, contentType, data := body.octets }
  | .error failure =>
      if failure.code == some 404 then .error (.documentMissing key.name key.file)
      else .error failure

def fetchFile (p : Platform) (key : Document.Key) : Action ω Document.File := do
  let reply ← exchange p (.showFile key)
  .ofExcept (fileOfReply key reply)

end Desk
end TenderDesk
