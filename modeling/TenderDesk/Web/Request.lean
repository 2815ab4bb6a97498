import TenderDesk.Json.Parser
import TenderDesk.Text.LowerCase
import TenderDesk.Text.Utf8

/-!
# Request — what a caller of the desk sends over the web

* Names of headers are compared without regard to case, and the first header of a name counts.
* Of several query members or form fields of one name the last counts.
* `Request.segments` are the parts of the path after percent escapes were resolved.
-/

namespace TenderDesk
namespace Web

inductive FieldValue
  | text (value : String)
  | file (name : String) (data : List UInt8)
  deriving DecidableEq, Repr

/-- One field of a form that was sent. -/
structure Field where
  name : String
  value : FieldValue
  deriving DecidableEq, Repr

inductive Body
  | empty
  /-- Text that is declared to be JSON. -/
  | json (text : String)
  | form (fields : List Field)
  deriving DecidableEq, Repr

structure Request where
  method : String
  /-- The path as it was sent, with percent escapes. -/
  path : String
  query : List (String × String) := []
  headers : List (String × String) := []
  body : Body := .empty
  /-- How deeply the JSON of the body may be nested. -/
  room : Nat := Json.usualRoom
  deriving DecidableEq, Repr

/-- A name with its ASCII letters in lower case. -/
def foldCase (s : String) : String :=
  String.ofList (s.toList.map Text.lowerAscii)

/-! ## Percent escapes -/

def hexValue? (c : Char) : Option Nat :=
  if '0' ≤ c && c ≤ '9' then some (c.toNat - '0'.toNat)
  else if 'a' ≤ c && c ≤ 'f' then some (c.toNat - 'a'.toNat + 10)
  else if 'A' ≤ c && c ≤ 'F' then some (c.toNat - 'A'.toNat + 10)
  else none

/-- The octets of a text with percent escapes; what is no escape stands for itself. -/
def unescape : List Char → List UInt8
  | '%' :: h :: l :: cs =>
      match hexValue? h, hexValue? l with
      | some h, some l => UInt8.ofNat (16 * h + l) :: unescape cs
      | _, _ => '%'.toNat.toUInt8 :: unescape (h :: l :: cs)
  | c :: cs => (String.ofList [c]).toUTF8.toList ++ unescape cs
  | [] => []

/-- The text that a path stands for. -/
def plainPath (path : String) : String :=
  String.ofList (Text.Utf8.decode (unescape path.toList))

/-! ## Parts of a request -/

namespace Request

def header? (r : Request) (name : String) : Option String :=
  (r.headers.find? fun h => foldCase h.1 == name).map (·.2)

def query? (r : Request) (name : String) : Option String :=
  (r.query.reverse.find? fun q => q.1 == name).map (·.2)

def segments (r : Request) : List String :=
  ((plainPath r.path).toList.splitOn '/').map String.ofList

def field? (r : Request) (name : String) : Option FieldValue :=
  match r.body with
  | .form fields => (fields.reverse.find? fun f => f.name == name).map (·.value)
  | _ => none

end Request

/-! ## Names of files in forms -/

/-- A character of a file's name as a form sends it: quotes and control characters are escaped. -/
def sentChar (c : Char) : List Char :=
  if c == '"' then ['%', '2', '2']
  else if c.toNat < 0x20 && c.toNat != 0x1B then '%' :: upperHex c.toNat
  else [c]
where
  upperHex (n : Nat) : List Char :=
    [n / 16, n % 16].map fun d => Char.ofNat (if d < 10 then '0'.toNat + d else 'A'.toNat + d - 10)

/-- A name that is a full path on a drive or a share. -/
def isFullPath : List Char → Bool
  | '\\' :: '\\' :: _ => true
  | _ :: ':' :: '\\' :: _ => true
  | _ => false

/-- The name under which the file of a form arrives: of a full path, its last part. -/
def arrivingName (name : String) : String :=
  let sent := name.toList.flatMap sentChar
  String.ofList
    (if isFullPath sent then (sent.reverse.takeWhile (· != '\\')).reverse else sent)

/-- The field of a file; without a name for it, its content is plain text. -/
def fileField (field name : String) (data : List UInt8) : Field where
  name := field
  value :=
    if name.isEmpty then .text (String.ofList (Text.Utf8.decode data))
    else .file (arrivingName name) data

end Web
end TenderDesk
