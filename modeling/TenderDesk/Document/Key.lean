import TenderDesk.Failure
import TenderDesk.Number.Reading
import TenderDesk.Schema.Record
import TenderDesk.Text.Base64

/-!
# Key — document ids

A document is known by the id of its file and its name. Outside, both stand in one text: the id, a
dash and the name, in base 64.
-/

namespace TenderDesk
namespace Document

open Schema

structure Key where
  file : Int
  name : String
  deriving DecidableEq, Repr, Inhabited

namespace Key

def table : List (Entry Key) :=
  [.required "file_id" "file_id" .whole (·.file) fun v r => { r with file := v },
   .required "file_name" "file_name" .text (·.name) fun v r => { r with name := v }]

def codec : Codec Key :=
  .record table default

/-- The text of a key, before it is encoded. -/
def label (k : Key) : String :=
  toString k.file ++ "-" ++ k.name

/-- The id of a document. -/
def id (k : Key) : String :=
  String.ofList (Text.Base64.encode k.label.toUTF8.toList)

/-- The key of a text with a file id before its first dash. -/
def ofLabel? (s : String) : Option Key :=
  let file := s.toList.takeWhile (· != '-')
  -- The dash stands at the head of what is left, and a name may hold more of them.
  match s.toList.drop file.length with
  | _ :: name =>
      match Number.readInteger (String.ofList file) with
      | .ok n => some ⟨n, String.ofList name⟩
      | .error _ => none
  | [] => none

/-- The key that a document id stands for. -/
def ofId? (s : String) : Option Key := do
  let cs := s.toList
  -- Other characters are refused; ASCII outside the alphabet is skipped by the decoder.
  if cs.all fun c => c.toNat < 128 then
    let bytes ← Text.Base64.decode? cs
    let label ← String.fromUTF8? ⟨bytes.toArray⟩
    ofLabel? label
  else none

/-- The key of a document id, which has to have one. -/
def ofId (s : String) : Except Failure Key :=
  match ofId? s with
  | some k => .ok k
  | none => .error (.documentIdMalformed s)

end Key
end Document
end TenderDesk
