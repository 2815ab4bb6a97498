import TenderDesk.Proofs.Desk.Showing

/-!
# Fetching — when a file is asked for, and what its id alone decides

A document id tells the file and its name, and nothing about an event.

* `Fetching.Ready` collects what a request for a file needs: an event with a record on the platform,
  and an id that can be read. Which files the record lists is not among it.
* `Fetching.Hindered` tells the failure of the first need that is not met.
* `fetch_sent_iff`: a file is asked for exactly when everything is ready, and nothing else is ever
  asked of the platform.
* `foreign_file_fetched`: an event gives out a file that only the record of another one lists.
-/

namespace TenderDesk
namespace Desk

open Sourcing

/-- The record that holds the documents of an event, by what its row says. -/
theorem documentRecord_eq_ok_iff_row {row : Row} {record : String} :
    documentRecord row = .ok record ↔
      (∃ kind : EventKind, row.kind = kind.name ∧ kind.owner = .platform) ∧
        row.externalId = some record ∧ record ≠ "" := by
  rw [documentRecord_eq_ok_iff]
  constructor
  · rintro ⟨kind, hkind, howner, hrecord⟩
    exact ⟨⟨kind, ofName_eq_ok_iff.1 hkind, howner⟩, Row.record?_eq_some_iff.1 hrecord⟩
  · rintro ⟨⟨kind, hkind, howner⟩, hrecord⟩
    exact ⟨kind, ofName_eq_ok_iff.2 hkind, howner, Row.record?_eq_some_iff.2 hrecord⟩

/-- A call to get a document of an event, and everything that it meets. -/
structure Fetching (ω : Type) where
  settings : Settings
  surroundings : Surroundings ω
  saved : Store
  memory : ω
  project : Int
  event : String
  document : String

namespace Fetching

variable {ω : Type}

/-! ## What the call meets -/

/-- The wait for the store in which the event is looked up. -/
def wait (c : Fetching ω) : Wait ω :=
  c.surroundings.wait c.settings.attempts c.memory

/-- What the search for the event tells. -/
def found (c : Fetching ω) : Except Failure Row :=
  c.saved.event c.settings.naming c.project c.event c.wait.answered

/-- What the platform replies when it is asked for a file after the event was found. -/
def reply (c : Fetching ω) (key : Document.Key) : Reply :=
  (c.surroundings (.exchange (.showFile key)) c.wait.memory).1

/-- How the call ends. -/
def visit (c : Fetching ω) : Except Failure Document.File × Run ω :=
  (Call.getDocument c.project c.event c.document).visit c.settings c.surroundings c.saved c.memory

/-! ## What it needs -/

structure Found (c : Fetching ω) (row : Row) : Prop where
  names : Names c.settings.naming c.saved c.project c.event row
  answered : c.wait.answered = true
  reads : c.saved.Reads [c.project, row.id]

structure Owned (c : Fetching ω) (row : Row) (record : String) : Prop extends Found c row where
  platform : ∃ kind : EventKind, row.kind = kind.name ∧ kind.owner = .platform
  external : row.externalId = some record
  nonempty : record ≠ ""

structure Ready (c : Fetching ω) (row : Row) (record : String) (key : Document.Key) : Prop
    extends Owned c row record where
  decoded : Document.Key.ofId? c.document = some key

/-- The settings tell where files are asked for. -/
def Addressed (c : Fetching ω) : Prop :=
  ∃ url, urlOf c.settings.platform "getAttachment" = .ok url

/-- The first need that is not met decides the failure. -/
inductive Hindered (c : Fetching ω) : Failure → Prop
  | unfound {failure : Failure} (h : c.found = .error failure) : Hindered c failure
  | unowned {row : Row} {failure : Failure} (needs : c.Found row)
      (h : documentRecord row = .error failure) : Hindered c failure
  | undecoded {row : Row} {record : String} (needs : c.Owned row record)
      (h : Document.Key.ofId? c.document = none) :
      Hindered c (.documentIdMalformed c.document)
  | unaddressed {row : Row} {record : String} {key : Document.Key} {failure : Failure}
      (needs : c.Ready row record key)
      (h : urlOf c.settings.platform "getAttachment" = .error failure) : Hindered c failure

/-! ## The call, stage by stage -/

variable {c : Fetching ω} {row : Row} {record : String} {key : Document.Key} {failure : Failure}

/-- The run after the event was looked up. -/
def seen (c : Fetching ω) : Run ω :=
  (Run.start c.saved c.memory).waiting c.wait

theorem visit_eq (c : Fetching ω) :
    c.visit = (findEvent c.settings c.project c.event >>= fun row =>
      fileOf c.settings row c.document) c.surroundings (.start c.saved c.memory) :=
  rfl

theorem requestsOf_seen (c : Fetching ω) : requestsOf c.seen.asked = [] :=
  requestsOf_waiting _ _ _ _

theorem found_eq_ok_iff : c.found = .ok row ↔ c.Found row := by
  unfold found
  rw [Store.event_eq_ok_iff_names]
  exact ⟨fun ⟨hnames, hanswered, hreads⟩ => ⟨hnames, hanswered, hreads⟩,
    fun h => ⟨h.names, h.answered, h.reads⟩⟩

theorem owned_iff (h : c.Found row) :
    documentRecord row = .ok record ↔ c.Owned row record := by
  rw [documentRecord_eq_ok_iff_row]
  constructor
  · rintro ⟨hplatform, hexternal, hnonempty⟩
    exact ⟨h, hplatform, hexternal, hnonempty⟩
  · intro howned
    exact ⟨howned.platform, howned.external, howned.nonempty⟩

theorem visit_of_found (h : c.Found row) :
    c.visit = fileOf c.settings row c.document c.surroundings c.seen := by
  have hfound : c.found = .ok row := found_eq_ok_iff.2 h
  rw [visit_eq]
  exact Action.bind_of_ok (findEvent_found rfl hfound)

/-- Behind an event with a record, only the id decides which file is asked for. -/
theorem visit_of_owned (h : c.Owned row record) :
    c.visit = (Action.ofExcept (Document.Key.ofId c.document) >>=
      fetchFile c.settings.platform) c.surroundings c.seen := by
  have hrecord : documentRecord row = .ok record := (owned_iff h.toFound).2 h
  rw [visit_of_found h.toFound]
  unfold fileOf
  rw [hrecord]
  rfl

theorem visit_of_ready (h : c.Ready row record key) :
    c.visit = fetchFile c.settings.platform key c.surroundings c.seen := by
  have hkey : Document.Key.ofId c.document = .ok key := by
    unfold Document.Key.ofId
    rw [h.decoded]
  rw [visit_of_owned h.toOwned, hkey]
  rfl

/-! ## Endings -/

/-- Nothing was asked of the platform, and nothing changed in the table. -/
structure Withheld (c : Fetching ω) (r : Run ω) : Prop where
  session : r.session = .fresh c.saved
  unsent : requestsOf r.asked = []

theorem seen_withheld (c : Fetching ω) : c.Withheld c.seen :=
  ⟨rfl, c.requestsOf_seen⟩

theorem visit_of_hindered (h : c.Hindered failure) :
    c.visit.1 = .error failure ∧ c.Withheld c.visit.2 := by
  cases h with
  | unfound h =>
      have hsearch := findEvent_course (w := c.surroundings) (r := .start c.saved c.memory) rfl
        c.settings c.project c.event
      have hmissing : c.saved.event c.settings.naming c.project c.event
          (c.surroundings.wait c.settings.attempts c.memory).answered = .error failure := h
      rw [show (Run.start c.saved c.memory).memory = c.memory from rfl, hmissing] at hsearch
      rw [visit_eq, Action.bind_of_error hsearch]
      refine ⟨rfl, ?_⟩
      dsimp only
      -- An event id that cannot be read is refused before the store is asked.
      split
      · exact c.seen_withheld
      · exact ⟨rfl, rfl⟩
  | unowned needs h =>
      rw [visit_of_found needs]
      unfold fileOf
      rw [h]
      exact ⟨rfl, c.seen_withheld⟩
  | undecoded needs h =>
      have hkey : Document.Key.ofId c.document = .error (.documentIdMalformed c.document) := by
        unfold Document.Key.ofId
        rw [h]
      rw [visit_of_owned needs, hkey]
      exact ⟨rfl, c.seen_withheld⟩
  | unaddressed needs h =>
      rename_i row record key
      have hunsent := fetchFile_course (w := c.surroundings) (p := c.settings.platform)
        (r := c.seen) key
      rw [show (Request.showFile key).endpoint = "getAttachment" from rfl, h] at hunsent
      rw [visit_of_ready needs, hunsent]
      exact ⟨rfl, c.seen_withheld⟩

/-- The file that an id stands for is asked for once, and its reply is the result. -/
theorem visit_of_addressed (h : c.Ready row record key) (ha : c.Addressed) :
    c.visit = (fileOfReply key (c.reply key),
      c.seen.asking c.surroundings (.exchange (.showFile key))) := by
  obtain ⟨url, hurl⟩ := ha
  have hsent := fetchFile_course (w := c.surroundings) (p := c.settings.platform) (r := c.seen) key
  rw [show (Request.showFile key).endpoint = "getAttachment" from rfl, hurl] at hsent
  rw [visit_of_ready h]
  exact hsent

theorem requestsOf_of_addressed (h : c.Ready row record key) (ha : c.Addressed) :
    requestsOf c.visit.2.asked = [.showFile key] := by
  rw [visit_of_addressed h ha]
  dsimp only
  rw [requestsOf_asking, requestsOf_seen]
  rfl

/-! ## All calls -/

/-- Either everything is there for the request, or something stops it. -/
theorem settled (c : Fetching ω) :
    (c.Addressed ∧ ∃ row record key, c.Ready row record key) ∨ ∃ failure, c.Hindered failure := by
  cases hfound : c.found with
  | error failure => exact .inr ⟨failure, .unfound hfound⟩
  | ok row =>
      have found : c.Found row := found_eq_ok_iff.1 hfound
      cases hrecord : documentRecord row with
      | error failure => exact .inr ⟨failure, .unowned found hrecord⟩
      | ok record =>
          have owned : c.Owned row record := (owned_iff found).1 hrecord
          cases hkey : Document.Key.ofId? c.document with
          | none => exact .inr ⟨_, .undecoded owned hkey⟩
          | some key =>
              have ready : c.Ready row record key := ⟨owned, hkey⟩
              cases hurl : urlOf c.settings.platform "getAttachment" with
              | error failure => exact .inr ⟨failure, .unaddressed ready hurl⟩
              | ok url => exact .inl ⟨⟨url, hurl⟩, row, record, key, ready⟩

/-- A file is asked for exactly when everything is ready, and that is all that is asked of the
platform: its reply is the result, whichever files the record of the event lists. Otherwise the
first need that is not met decides the failure. The table is never changed. -/
theorem fetch_sent_iff (c : Fetching ω) :
    c.visit.2.session = .fresh c.saved ∧
      (∀ request, request ∈ requestsOf c.visit.2.asked ↔
        c.Addressed ∧ ∃ row record key, c.Ready row record key ∧ request = .showFile key) ∧
      (∀ row record key, c.Addressed → c.Ready row record key →
        requestsOf c.visit.2.asked = [.showFile key] ∧
          c.visit.1 = fileOfReply key (c.reply key)) ∧
      (requestsOf c.visit.2.asked = [] →
        ∃ failure, c.Hindered failure ∧ c.visit.1 = .error failure) := by
  refine ⟨?_, fun request => ⟨?_, ?_⟩, ?_, ?_⟩
  · rcases c.settled with ⟨ha, row, record, key, ready⟩ | ⟨failure, h⟩
    · rw [visit_of_addressed ready ha]
      rfl
    · exact (visit_of_hindered h).2.session
  · intro hrequest
    rcases c.settled with ⟨ha, row, record, key, ready⟩ | ⟨failure, h⟩
    · rw [requestsOf_of_addressed ready ha] at hrequest
      exact ⟨ha, row, record, key, ready, List.mem_singleton.1 hrequest⟩
    · rw [(visit_of_hindered h).2.unsent] at hrequest
      exact absurd hrequest List.not_mem_nil
  · rintro ⟨ha, row, record, key, ready, rfl⟩
    rw [requestsOf_of_addressed ready ha]
    exact List.mem_singleton.2 rfl
  · intro row record key ha ready
    refine ⟨requestsOf_of_addressed ready ha, ?_⟩
    rw [visit_of_addressed ready ha]
  · intro hnone
    rcases c.settled with ⟨ha, row, record, key, ready⟩ | ⟨failure, h⟩
    · rw [requestsOf_of_addressed ready ha] at hnone
      cases hnone
    · exact ⟨failure, h, (visit_of_hindered h).1⟩

end Fetching

/-! ## Files of other events -/

/-- An export of a record with one attachment of the buyer. -/
def exportOf (key : Document.Key) : Reply :=
  .ofJson (.obj [("dataList", .arr [.obj [("buyerAttachmentsList", .obj [("attachment",
    .arr [.obj [("fileId", .int key.file), ("fileName", .str key.name)]])])]])])

/-- A platform with two records, each of which lists a file of its own. -/
def twoRecords (own foreign : Document.Key) : Surroundings Unit
  | .exchange (.showRecord id), m => (exportOf (if id = "rfq_1" then own else foreign), m)
  | .exchange (.showFile key), m => (.answered 200 none (.ofText key.name), m)
  | .exchange _, m => (.failed .timeout "", m)
  | .buyerUser _, m => (.ok none, m)
  | .buyerCompany _, m => (.ok none, m)
  | .lotSuppliers _ _, m => (.ok [], m)
  | .newAssessment _ _ _ _, m => (.ok 1, m)
  | .assessment id _, m => (.ok ⟨id, ""⟩, m)
  | .criteria _ _, m => (.ok (.arr []), m)
  | .lookup, m => (true, m)
  | .commit, m => (none, m)
  | .clock, m => (default, m)
  | .pause _, m => ((), m)

/-- The rows of two requests for information in one project, with their records. -/
def twoRows : List Row :=
  [{ id := 1, project := 1, name := "Pens", kind := "RFI", naming := benchSettings.naming,
     externalId := some "rfq_1", createdBy := "", updatedBy := "" },
   { id := 2, project := 1, name := "Paper", kind := "RFI", naming := benchSettings.naming,
     externalId := some "rfq_2", createdBy := "", updatedBy := "" }]

/-- The record of an event lists one file. The event gives out another, which only the record of
the other event lists. -/
theorem foreign_file_fetched :
    let own : Document.Key := ⟨1, "pens.pdf"⟩
    let foreign : Document.Key := ⟨9, "paper.pdf"⟩
    let saved : Store := { projects := [benchProject], rows := twoRows }
    let listed := (Call.listDocuments 1 "ocds-b5fd17-1").visit benchSettings
      (twoRecords own foreign) saved ()
    let fetched := (Call.getDocument 1 "ocds-b5fd17-1" foreign.id).visit benchSettings
      (twoRecords own foreign) saved ()
    (listed.1.map fun documents => documents.map (·.id)) = .ok [own.id] ∧ own.id ≠ foreign.id ∧
      requestsOf fetched.2.asked = [.showFile foreign] ∧
      fetched.1 = .ok { name := "paper.pdf", data := "paper.pdf".toUTF8.toList } := by
  decide +kernel

end Desk
end TenderDesk
