import TenderDesk.Event.Status
import TenderDesk.Number.Binary64
import TenderDesk.Text.Raw

/-!
# Settings — what a desk is set up with

* `Platform` tells how the sourcing platform is reached and how records are created there.
* `DocumentRules` limits what may be uploaded, `Naming` fixes the form of public event ids.
* `Settings` holds all of it, with the table that translates status codes.
-/

namespace TenderDesk

structure Platform where
  baseUrl : String
  token : Option String := none
  timeout : Binary64 := .ofInt 30
  /-- Paths of the platform by the name of what is done there. -/
  endpoints : List (RawText × RawText)
  /-- Parameters for the creation of records. -/
  creation : List (RawText × RawText)
  deriving DecidableEq, Repr, Inhabited

structure DocumentRules where
  /-- Extensions in lower case, without their dot. -/
  extensions : List String
  maxSize : Int
  maxTotal : Int
  deriving DecidableEq, Repr, Inhabited

/-- The parts of a public event id that are the same for all events. -/
structure Naming where
  authority : String := "ocds"
  ocid : String := "b5fd17"
  deriving DecidableEq, Repr, Inhabited

/-- What stands before the number in a public event id. -/
def Naming.stem (n : Naming) : String :=
  n.authority ++ "-" ++ n.ocid ++ "-"

structure Settings where
  platform : Platform
  /-- The status that stands for each code of the platform. -/
  statuses : List (RawText × Status)
  documents : DocumentRules
  naming : Naming := {}
  /-- How often a lookup is tried while the store does not answer. -/
  attempts : Int := 3
  deriving DecidableEq, Repr, Inhabited

/-- The value that a table has for a name. -/
def lookup? {κ α : Type} [DecidableEq κ] (table : List (κ × α)) (name : κ) : Option α :=
  (table.find? fun entry => entry.1 == name).map (·.2)

/-! ## Values where nothing else is set -/

namespace Platform

def defaultEndpoints : List (RawText × RawText) :=
  [("createRfx", "/esop/jint/api/public/ja/v1/rfxs/"),
   ("exportRfx", "/esop/jint/api/public/ja/v1/rfxs/"),
   ("publishRfx", "/esop/jint/api/public/ja/v1/rfxs/publish"),
   ("getAttachment", "/esop/jint/api/public/ja/v1/attachments")]

def defaultCreation : List (RawText × RawText) :=
  [("templateId", "itt_543"), ("defaultTitleFormat", "%s-%s")]

end Platform

namespace Settings

def defaultStatuses : List (RawText × Status) :=
  [("0", .planning), ("100", .planned), ("300", .active), ("400", .complete),
   ("500", .cancelled), ("800", .unsuccessful), ("1000", .withdrawn)]

end Settings
end TenderDesk
