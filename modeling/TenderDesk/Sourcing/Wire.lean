import TenderDesk.Settings.Basic
import TenderDesk.Sourcing.Exchange

/-!
# Wire — requests to the platform as they are sent

`Request.wire` gives address, headers, query and body of a request. It fails only where the settings
do not tell the address.
-/

namespace TenderDesk
namespace Sourcing

inductive Method
  | get
  | post
  deriving DecidableEq, Repr

def Method.word : Method → String
  | .get => "GET"
  | .post => "POST"

inductive Content
  | json (value : Json)
  | octets (bytes : List UInt8)
  deriving DecidableEq, Repr

/-- One field of a form. -/
structure Part where
  name : String
  fileName : Option String := none
  contentType : Option String := none
  content : Content
  deriving DecidableEq, Repr

inductive Body
  | empty
  | json (value : Json)
  | form (parts : List Part)
  deriving DecidableEq, Repr

structure Wire where
  method : Method
  url : String
  headers : List (String × String)
  query : List (String × Json)
  body : Body
  deriving DecidableEq, Repr

/-- The address of an endpoint. -/
def urlOf (p : Platform) (endpoint : String) : Except Failure String :=
  match lookup? p.endpoints endpoint with
  | some path =>
      -- Slashes at the end are dropped, since every path begins with one.
      let base := p.baseUrl.toList.reverse.dropWhile (· == '/')
      .ok (String.ofList base.reverse ++ path.repaired)
  | none => .error (.settingMissing endpoint)

/-- The headers of every request; an empty token is none. -/
def headersOf (p : Platform) : List (String × String) :=
  ("Accept", "application/json") :: match p.token with
    | some token => if token.isEmpty then [] else [("Authorization", "Bearer " ++ token)]
    | none => []

/-- The parts of a record that are asked for. -/
def recordParts : String :=
  "supplier;buyerAttachments;sellerAttachments"

namespace Request

def method : Request → Method
  | .write _ | .upload _ _ _ | .publish _ => .post
  | .showRecord _ | .showFile _ => .get

def query : Request → List (String × Json)
  | .showRecord id => [("comps", .str recordParts), ("flt", .str ("rfxId==" ++ id))]
  | .showFile key => [("fileId", .int key.file), ("fileName", .str key.name)]
  | _ => []

def body : Request → Body
  | .write change => .json (Change.codec.write change)
  | .upload fileName data change => .form [
      { name := "data", contentType := some "application/json",
        content := .json (Change.codec.write change) },
      { name := "file", fileName := some fileName, content := .octets data }]
  | .publish order => .json (PublishOrder.codec.write order)
  | _ => .empty

def wire (p : Platform) (r : Request) : Except Failure Wire :=
  match urlOf p r.endpoint with
  | .ok url => .ok ⟨r.method, url, headersOf p, r.query, r.body⟩
  | .error failure => .error failure

end Request
end Sourcing
end TenderDesk
