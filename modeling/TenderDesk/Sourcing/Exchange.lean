import TenderDesk.Document.Key
import TenderDesk.Sourcing.Rfx

/-!
# Exchange — what is asked of the platform, and its replies

A reply is an answer of any status, or a failure of the transport. The body of an answer comes with
what the client makes of it, since the charset of an answer is the client's business.
-/

namespace TenderDesk
namespace Sourcing

inductive Request
  | write (change : Change)
  /-- Writes a record and sends a file for it. -/
  | upload (fileName : String) (data : List UInt8) (change : Change)
  | publish (order : PublishOrder)
  | showRecord (id : String)
  | showFile (key : Document.Key)
  deriving DecidableEq, Repr

/-- The name under which settings tell where a request goes. -/
def Request.endpoint : Request → String
  | .write _ | .upload _ _ _ => "createRfx"
  | .publish _ => "publishRfx"
  | .showRecord _ => "exportRfx"
  | .showFile _ => "getAttachment"

/-- How the transport failed. -/
inductive Lapse
  | timeout
  | connection
  deriving DecidableEq, Repr

/-- The name of a failure that says nothing more about itself. -/
def Lapse.word : Lapse → String
  | .timeout => "TimeoutError"
  | .connection => "ClientError"

/-- What the client makes of octets in the charset that an answer declares. -/
inductive Decoded
  | text (text : String)
  /-- The octets are no text in that charset. -/
  | garbled (detail : String)
  /-- The charset is none of text. -/
  | foreign (detail : String)
  deriving DecidableEq, Repr

/-- The body of an answer. -/
structure Payload where
  octets : List UInt8
  decoded : Decoded
  /-- How deeply JSON may be nested where it is read. -/
  room : Nat
  deriving DecidableEq, Repr

/-- A text in UTF-8, with room for all that may be nested in it. -/
def Payload.ofText (text : String) : Payload :=
  ⟨text.toUTF8.toList, .text text, text.length⟩

inductive Reply
  | answered (status : Nat) (contentType : Option String) (body : Payload)
  | failed (lapse : Lapse) (detail : String)
  deriving DecidableEq, Repr

instance : Inhabited Reply :=
  ⟨.failed .connection ""⟩

end Sourcing
end TenderDesk
