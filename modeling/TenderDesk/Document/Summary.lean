import TenderDesk.Document.Key
import TenderDesk.Sourcing.Rfx

/-!
# Summary — documents as callers see them
-/

namespace TenderDesk
namespace Document

open Schema

/-- Whom a document is from. -/
inductive Audience
  | buyer
  | supplier
  deriving DecidableEq, Repr, Inhabited

namespace Audience

def all : List Audience :=
  [.buyer, .supplier]

def name : Audience → String
  | .buyer => "buyer"
  | .supplier => "supplier"

def ofName? (s : String) : Option Audience :=
  all.find? fun a => a.name == s

def codec : Codec Audience :=
  .choice ofName? name

@[simp] theorem ofName?_name (a : Audience) : ofName? a.name = some a := by
  cases a <;> decide

end Audience

structure Summary where
  id : String
  name : String
  size : Int := 0
  description : Option String := none
  audience : Audience
  deriving DecidableEq, Repr, Inhabited

namespace Summary

def table : List (Entry Summary) :=
  [.required "id" "id" .text (·.id) fun v r => { r with id := v },
   .required "file_name" "file_name" .text (·.name) fun v r => { r with name := v },
   .defaulting "file_size" .whole 0 (·.size) fun v r => { r with size := v },
   .nullable "description" .text (·.description) fun v r => { r with description := v },
   .required "audience" "audience" Audience.codec (·.audience)
    fun v r => { r with audience := v }]

def codec : Codec Summary :=
  .record table default

/-- The key of an attachment; what it does not tell is zero or empty. -/
def keyOf (a : Sourcing.Attachment) : Key :=
  ⟨a.file.get?.getD 0, (a.name.get?.getD "").repaired⟩

/-- Why an attachment has no id: its name stands in the id in UTF-8, behind the file and a dash. -/
def refusal? (a : Sourcing.Attachment) : Option String :=
  match a.name.get? with
  | some (.torn name) => some (name.refusal ((toString (keyOf a).file).length + 1))
  | _ => none

def ofAttachment (audience : Audience) (a : Sourcing.Attachment) : Summary where
  id := (keyOf a).id
  name := (keyOf a).name
  size := a.size.get?.getD 0
  description := a.description.get?
  audience := audience

/-- The documents on a record: those of the buyer, then those of suppliers. -/
def ofSnapshot (s : Sourcing.Snapshot) : List Summary :=
  s.buyerItems.map (ofAttachment .buyer) ++ s.sellerItems.map (ofAttachment .supplier)

/-- The documents on a record, if each of them has an id. -/
def listed (s : Sourcing.Snapshot) : Except Failure (List Summary) :=
  match (s.buyerItems ++ s.sellerItems).findSome? refusal? with
  | some message => .error (.nameRefused message)
  | none => .ok (ofSnapshot s)

/-- The bytes of all documents together. -/
def totalSize (documents : List Summary) : Int :=
  (documents.map (·.size)).foldl (· + ·) 0

end Summary

/-- A document that was fetched. -/
structure File where
  name : String
  contentType : Option String := none
  data : List UInt8
  deriving DecidableEq, Repr, Inhabited

namespace File

def table : List (Entry File) :=
  [.required "file_name" "file_name" .text (·.name) fun v r => { r with name := v },
   .nullable "content_type" .text (·.contentType) fun v r => { r with contentType := v },
   .required "data" "data" .octets (·.data) fun v r => { r with data := v }]

def codec : Codec File :=
  .record table default

end File
end Document
end TenderDesk
