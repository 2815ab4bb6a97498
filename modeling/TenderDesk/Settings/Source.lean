import TenderDesk.Json.Parser
import TenderDesk.Json.Shown
import TenderDesk.Schema.Codec
import TenderDesk.Settings.Basic
import TenderDesk.Text.LowerCase

/-!
# Source — settings from the values that were given for them

* A `Source` has one value for each setting, of whatever type it was given, and the limits within
  which values can be read and shown.
* `Source.load` reads all of them. Tables are given as the text of a JSON object; entries of the
  two tables for the platform are put over the default ones, the table of statuses replaces its
  default as a whole.
* `Source.missing` names the settings without which a desk cannot be opened.
-/

namespace TenderDesk
namespace Settings

open Schema

structure Source where
  baseUrl : Json := .null
  platformToken : Json := .null
  timeout : Json := .int 30
  endpoints : Json := .str "\x7b\x7d"
  creation : Json := .str "\x7b\x7d"
  statuses : Json := .str ""
  extensions : Json
  maxSize : Json := .int (300 * 1024 * 1024)
  maxTotal : Json := .int (1024 * 1024 * 1024)
  authority : Json := .str "ocds"
  ocid : Json := .str "b5fd17"
  /-- The token that callers of the desk have to show. -/
  token : Json := .null
  /-- How deeply the texts of tables may be nested. -/
  room : Nat := Json.usualRoom
  /-- The greatest height of a value that can be shown in a message. -/
  shownRoom : Nat := Json.usualRoom
  deriving DecidableEq, Repr

/-! ## Faults -/

inductive SourceFault
  | missing (names : List String)
  /-- The text of a table of the platform is not JSON. -/
  | tableText (text : String) (fault : Json.Fault)
  /-- The text of the table of statuses is not JSON. -/
  | statusText (text : String) (fault : Json.Fault)
  | numberTooLong (digits : Nat)
  | notText (sort : String)
  | notObject (sort : String)
  | notStatus (value : Json)
  | notList (sort : String)
  | extensionNotText (sort : String)
  | faults (all : List Fault)
  | notInteger (text : String) (fault : Number.IntegerFault)
  | notReal (text : String)
  /-- A value is nested too deeply, to be read or to be shown. -/
  | tooDeep (message : String)
  deriving DecidableEq, Repr

def SourceFault.message : SourceFault → String
  | .missing names => "Missing required environment variables: " ++ ", ".intercalate names
  | .tableText text fault =>
      "Invalid JSON configuration value " ++ Text.quoted text ++ ": " ++ fault.message text
  | .statusText text fault => fault.message text
  | .numberTooLong digits => Number.tooLongMessage digits
  | .notText sort => "the JSON object must be str, bytes or bytearray, not " ++ sort
  | .notObject sort => s!"'{sort}' object has no attribute 'items'"
  | .notStatus value => value.shown ++ " is not a valid TenderStatus"
  | .notList sort => s!"'{sort}' object is not iterable"
  | .extensionNotText sort => s!"'{sort}' object has no attribute 'strip'"
  | .faults all => s!"{all.length} faults"
  | .notInteger text fault => fault.message text
  | .notReal text => "could not convert string to float: " ++ Text.quoted text
  | .tooDeep message => message

/-! ## Tables -/

/-- The JSON value in a text; `fault` tells what a text that has none is. -/
def parsed (room : Nat) (fault : String → Json.Fault → SourceFault) :
    Json → Except SourceFault Json
  | .str s =>
      match Json.parse room s.repaired with
      | .ok j => .ok j
      | .error f =>
          match f.expected with
          | .fewerDigits n => .error (.numberTooLong n)
          | .fewerLevels _ => .error (.tooDeep (f.message s.repaired))
          | _ => .error (fault s.repaired f)
  | j => .error (.notText j.sort)

def membersOf : Json → Except SourceFault (List (RawText × Json))
  | .obj ms => .ok ms
  | j => .error (.notObject j.sort)

/-- Entries put over others: a name that is there keeps its place. -/
def merge (base entries : List (RawText × Json)) : List (RawText × Json) :=
  entries.foldl (fun acc m => Json.setMember m.1 m.2 acc) base

/-- The default entries of a table with those of a text over them. -/
def tableOver (room : Nat) (base : List (RawText × RawText)) (given : Json) :
    Except SourceFault (List (RawText × Json)) :=
  let base := base.map fun e => (e.1, Json.str e.2)
  if given.isEmpty then .ok base
  else do
    let j ← parsed room .tableText given
    let entries ← membersOf j
    return merge base entries

/-- The entries of the table of statuses, which are not read yet. -/
def statusMembers (room : Nat) (given : Json) : Except SourceFault Json :=
  if given.isEmpty then .ok (.obj (defaultStatuses.map fun e => (e.1, Json.str e.2.name)))
  else parsed room .statusText given

/-- The fault of a value that is no status. It shows the value, if there is room for that. -/
def notStatus (shownRoom : Nat) (value : Json) : SourceFault :=
  if value.height ≤ shownRoom then .notStatus value
  else .tooDeep "maximum recursion depth exceeded while getting the repr of an object"

/-- Reads the values of a table of statuses. -/
def readStatuses (shownRoom : Nat) :
    List (RawText × Json) → Except SourceFault (List (RawText × Status))
  | [] => .ok []
  | (code, value) :: rest =>
      let status? := match value with
        | .str (.whole s) => Status.ofName? s
        | _ => none
      match status? with
      | some status => do return (code, status) :: (← readStatuses shownRoom rest)
      | none => .error (notStatus shownRoom value)

/-! ## Documents -/

/-- The items of a list, the code points of a text, the names in an object. -/
def itemsOf : Json → Except SourceFault (List Json)
  | .arr xs => .ok xs
  | .str s => .ok (s.points.map fun p => .str (.ofPoints [p]))
  | .obj ms => .ok (ms.map fun m => .str m.1)
  | j => .error (.notList j.sort)

/-- Extensions without white space around them and in lower case, each once; blank ones count as
none. -/
def normalize (extensions : List String) : List String :=
  ((extensions.map fun s => Text.lower (Text.strip s)).filter fun s => !s.isEmpty).eraseDups

/-- The extensions that a list names. One with half of a pair in it is that of no file name. -/
def textsOf : List Json → Except SourceFault (List String)
  | [] => .ok []
  | .str (.whole s) :: rest => do return s :: (← textsOf rest)
  | .str (.torn _) :: rest => textsOf rest
  | j :: _ => .error (.extensionNotText j.sort)

/-! ## Loading -/

/-- Goes on with a value that was read, or stops with all its faults. -/
def ofChecked {α : Type} : Checked α → Except SourceFault α
  | .ok a => .ok a
  | .error fs => .error (.faults fs)

/-- A value that may be null. -/
def readNullable {α : Type} (c : Codec α) : Json → Checked (Option α)
  | .null => .ok none
  | j => (c.read j).map some

/-- Values of the members of a table that have to be texts. -/
def readTexts (ms : List (RawText × Json)) : Checked (List (RawText × RawText)) :=
  (Codec.object .raw).read (.obj ms)

def readPlatform (s : Source) (endpoints creation : List (RawText × Json)) : Checked Platform :=
  let url := if s.baseUrl.isEmpty then .str "" else s.baseUrl
  Platform.mk <$> (Codec.text.read url).under (.name "base_url")
    <*> (readNullable .text s.platformToken).under (.name "api_token")
    <*> (Codec.real.read s.timeout).under (.name "timeout_seconds")
    <*> (readTexts endpoints).under (.name "endpoints")
    <*> (readTexts creation).under (.name "create_rfx")

def readDocumentRules (s : Source) (extensions : List String) : Checked DocumentRules :=
  DocumentRules.mk (normalize extensions)
    <$> (Codec.whole.read s.maxSize).under (.name "max_size")
    <*> (Codec.whole.read s.maxTotal).under (.name "max_total_size")

def readNaming (s : Source) : Checked Naming :=
  Naming.mk <$> (Codec.text.read s.authority).under (.name "authority")
    <*> (Codec.text.read s.ocid).under (.name "ocid_prefix")

namespace Source

def load (s : Source) (attempts : Int) : Except SourceFault Settings := do
  let statuses ← statusMembers s.room s.statuses
  let endpoints ← tableOver s.room Platform.defaultEndpoints s.endpoints
  let creation ← tableOver s.room Platform.defaultCreation s.creation
  let platform ← ofChecked (readPlatform s endpoints creation)
  let statuses ← readStatuses s.shownRoom (← membersOf statuses)
  let extensions ← textsOf (← itemsOf s.extensions)
  let documents ← ofChecked (readDocumentRules s extensions)
  let naming ← ofChecked (readNaming s)
  return { platform, statuses, documents, naming, attempts }

/-- The settings that have to be given and are not. -/
def missing (s : Source) : List String :=
  ([("REMOTE_BASE_URL", s.baseUrl), ("API_TOKEN", s.token)].filter fun e => e.2.isEmpty).map (·.1)

/-- Refuses a source that leaves out what has to be given. -/
def validate (s : Source) : Except SourceFault Unit :=
  match s.missing with
  | [] => .ok ()
  | names => .error (.missing names)

end Source
end Settings
end TenderDesk
