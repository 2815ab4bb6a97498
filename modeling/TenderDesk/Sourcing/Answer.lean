import TenderDesk.Failure
import TenderDesk.Json.Parser
import TenderDesk.Json.Shown
import TenderDesk.Sourcing.Exchange
import TenderDesk.Sourcing.Rfx

/-!
# Answer — what replies of the platform mean

Replies are read leniently and classified strictly.

* `Reply.content` lets only status 200 pass, `Reply.json` reads such an answer. What goes wrong is
  the platform's fault, but for a charset that is none of text and for JSON that is nested too
  deeply.
* `Receipt.ofAnswer` takes a change as made when the platform says so with code 0 and `OK`.
* `Snapshot.ofExport` takes the first record of an export.
-/

namespace TenderDesk
namespace Sourcing

open Schema

/-! ## Contents -/

namespace Payload

/-- The text of a body. A charset that is none of text is not the platform's fault. -/
def text (endpoint : String) (p : Payload) : Except Failure String :=
  match p.decoded with
  | .text text => .ok text
  | .garbled detail => .error (.platform (.unreachable endpoint detail))
  | .foreign detail => .error (.charsetRefused detail)

/-- A body that says nothing. -/
def isBlank (p : Payload) : Bool :=
  p.octets.all fun b => b == 0x20 || (0x09 ≤ b && b ≤ 0x0D)

/-- A failure to read a text as JSON; only its nesting is not the platform's fault. -/
def failureOf (endpoint text : String) (fault : Json.Fault) : Failure :=
  if fault.isDepth then .answerTooDeep (fault.message text)
  else .platform (.unreachable endpoint (fault.message text))

/-- The JSON value of a body; a blank one has the value null. -/
def json (endpoint : String) (p : Payload) : Except Failure Json :=
  if p.isBlank then .ok .null
  else match p.text endpoint with
    | .ok text => (Json.parse p.room text).mapError (failureOf endpoint text)
    | .error failure => .error failure

end Payload

namespace Reply

/-- Body and content type of a successful answer. -/
def content (endpoint : String) : Reply → Except Failure (Payload × Option String)
  | .answered 200 contentType body => .ok (body, contentType)
  | .answered status _ body =>
      match body.text endpoint with
      | .ok text => .error (.platform (.refused endpoint text status))
      | .error failure => .error failure
  | .failed lapse detail =>
      .error (.platform (.unreachable endpoint (if detail.isEmpty then lapse.word else detail)))

/-- The JSON value of a successful answer. -/
def json (endpoint : String) (r : Reply) : Except Failure Json :=
  match r.content endpoint with
  | .ok (body, _) => body.json endpoint
  | .error failure => .error failure

end Reply

/-! ## Receipts -/

namespace Receipt

/-- Lets a receipt of a change pass that was made. -/
def accept (action : String) (r : Receipt) : Except PlatformFault Receipt :=
  if r.isSuccess then .ok r else .error (.rejected action r.message.get? r.code.get?)

/-- The receipt in an answer; `name` tells what was answered, `action` what was to be done. -/
def ofAnswer (name action : String) (j : Json) : Except PlatformFault Receipt :=
  match codec.read j with
  | .ok r => r.accept action
  | .error _ => .error (.malformedAnswer name)

/-- The receipt in an answer that must not be empty. -/
def ofFullAnswer (name action : String) (j : Json) : Except PlatformFault Receipt :=
  match j with
  | .null => .error (.emptyAnswer name)
  | j => ofAnswer name action j

/-- The receipt in an answer that counts as an empty record when it is empty itself. -/
def ofLooseAnswer (action : String) (j : Json) : Except PlatformFault Receipt :=
  ofAnswer action action (if j.isEmpty then .obj [] else j)

end Receipt

/-! ## Exports -/

namespace Snapshot

/-- What an export is called in messages. -/
def exportName : String := "Rfx export"

/-- The first item of the list of records in an export. -/
def firstItem (id : String) (records : Json) : Except Failure Json :=
  if records.isEmpty then .error (.platform (.recordMissing id))
  else match records with
    | .arr (item :: _) => .ok item
    -- A text in the place of a list gives its first character.
    | .str s => .ok (.str (.ofPoints (s.points.take 1)))
    | .obj _ => .error .recordListKeyed
    | j => .error (.recordListPlain j.sort)

def ofItem (item : Json) : Except Failure Snapshot :=
  match codec.read item with
  | .ok s => .ok s
  | .error _ => .error (.platform (.malformedAnswer exportName))

/-- The record in the answer to a request for the record of an id. -/
def ofExport (id : String) (j : Json) : Except Failure Snapshot :=
  match j with
  | .null => .error (.platform (.recordMissing id))
  | .obj members =>
      match firstItem id ((Json.find? "dataList" members).getD .null) with
      | .ok item => ofItem item
      | .error failure => .error failure
  | _ => .error (.platform (.malformedAnswer exportName))

end Snapshot
end Sourcing
end TenderDesk
