import TenderDesk.Proofs.Desk.Fetching
import TenderDesk.Proofs.Document.Key
import TenderDesk.Proofs.Sourcing.Extent

/-!
# Catalogue — the documents that are listed, and what their ids fetch

* `attachmentsOf` are the attachments of a record in the order in which they are listed.
* `Fetching.Takes` says that a call asks for a document of an event by its id, at any later time and
  in any surroundings in which the request can be sent.
* `listed_fetched`: a listed document is fetched by its id exactly when its file id is not negative,
  and different documents have different ids. What an attachment does not tell counts as zero or as
  the empty text throughout.
* `negative_unfetched`: the id of a file with a negative number is refused.
-/

namespace TenderDesk
namespace Desk

open Sourcing Document

/-! ## Attachments -/

/-- The attachments of a record, each with whom it is from. -/
def attachmentsOf (s : Snapshot) : List (Audience × Attachment) :=
  s.buyerItems.map (Audience.buyer, ·) ++ s.sellerItems.map (Audience.supplier, ·)

/-- The document that is listed for an attachment. -/
def documentOf (a : Audience × Attachment) : Summary :=
  Summary.ofAttachment a.1 a.2

theorem ofSnapshot_eq (s : Snapshot) : Summary.ofSnapshot s = (attachmentsOf s).map documentOf := by
  simp [Summary.ofSnapshot, attachmentsOf, documentOf, Function.comp_def]

/-- Every attachment has an id: half of a pair stands in no name. -/
def Named (s : Snapshot) : Prop :=
  ∀ a ∈ attachmentsOf s, ∀ name, a.2.name ≠ .set (.torn name)

theorem refusal?_eq_none_iff {a : Attachment} :
    Summary.refusal? a = none ↔ ∀ name, a.name ≠ .set (.torn name) := by
  unfold Summary.refusal?
  cases hname : a.name with
  | set name => cases name <;> simp [Schema.Slot.get?]
  | _ => simp [Schema.Slot.get?]

instance (s : Snapshot) : Decidable (Named s) :=
  decidable_of_iff (∀ a ∈ attachmentsOf s, Summary.refusal? a.2 = none) <| by
    simp only [Named, refusal?_eq_none_iff]

/-- Documents are listed where all of them have an id. -/
theorem listed_eq_ok_iff {s : Snapshot} {documents : List Summary} :
    Summary.listed s = .ok documents ↔
      Named s ∧ documents = (attachmentsOf s).map documentOf := by
  -- The first name without an id is looked for, so none is found where all of them have one.
  have hnamed : (s.buyerItems ++ s.sellerItems).findSome? Summary.refusal? = none ↔ Named s := by
    simp only [List.findSome?_eq_none_iff, refusal?_eq_none_iff]
    simp [Named, attachmentsOf, or_imp, forall_and]
  rw [← hnamed, ← ofSnapshot_eq]
  unfold Summary.listed
  cases (s.buyerItems ++ s.sellerItems).findSome? Summary.refusal? with
  | none => simp [eq_comm]
  | some message => simp

theorem listed_of_named {s : Snapshot} (h : Named s) :
    Summary.listed s = .ok (Summary.ofSnapshot s) :=
  listed_eq_ok_iff.2 ⟨h, ofSnapshot_eq s⟩

theorem listed_of_unnamed {s : Snapshot} (h : ¬Named s) :
    ∃ message, Summary.listed s = .error (.nameRefused message) := by
  cases hlisted : Summary.listed s with
  | ok documents => exact absurd (listed_eq_ok_iff.1 hlisted).1 h
  | error failure =>
      unfold Summary.listed at hlisted
      split at hlisted
      · cases hlisted
        exact ⟨_, rfl⟩
      · cases hlisted

theorem isShort_keyOf {a : Attachment} (h : a.IsShort) :
    Number.IsShort (Summary.keyOf a).file := by
  unfold Summary.keyOf
  cases hfile : a.file with
  | set i => exact h i hfile
  | _ => exact Number.isShort_of_lt (show (0 : Int).natAbs < 10 ^ 19 by decide)

theorem isShort_of_mem_attachmentsOf {s : Snapshot} (h : s.IsShort) {a : Audience × Attachment}
    (ha : a ∈ attachmentsOf s) : a.2.IsShort := by
  rcases List.mem_append.1 ha with hbuyer | hseller
  · obtain ⟨b, hb, rfl⟩ := List.mem_map.1 hbuyer
    exact h.buyerItems b hb
  · obtain ⟨b, hb, rfl⟩ := List.mem_map.1 hseller
    exact h.sellerItems b hb

/-! ## Listing -/

section

variable {ω : Type}

/-- A call asks for a document of an event by its id, where the store answers and files can be
asked for. -/
structure Fetching.Takes (c : Fetching ω) (settings : Settings) (saved : Store) (project : Int)
    (event document : String) : Prop where
  settings : c.settings = settings
  saved : c.saved = saved
  project : c.project = project
  event : c.event = event
  document : c.document = document
  answered : c.wait.answered = true
  addressed : c.Addressed

/-- An event whose documents were listed, as the platform showed its record. -/
structure Shelf (settings : Settings) (saved : Store) (project : Int) (event : String) (row : Row)
    (record : String) : Prop where
  names : Names settings.naming saved project event row
  reads : saved.Reads [project, row.id]
  platform : ∃ kind : EventKind, row.kind = kind.name ∧ kind.owner = .platform
  external : row.externalId = some record
  nonempty : record ≠ ""

variable {settings : Settings} {w : Surroundings ω} {saved : Store} {memory : ω} {project : Int}
  {event : String} {row : Row} {record : String}

/-- Where documents were listed, a call that takes one of them finds the event and its record. -/
theorem Shelf.owned (shelf : Shelf settings saved project event row record) {ω' : Type}
    {c : Fetching ω'} {document : String} (h : c.Takes settings saved project event document) :
    c.Owned row record where
  names := by
    rw [h.settings, h.saved, h.project, h.event]
    exact shelf.names
  answered := h.answered
  reads := by
    rw [h.saved, h.project]
    exact shelf.reads
  platform := shelf.platform
  external := shelf.external
  nonempty := shelf.nonempty

theorem documentsOf_course {r : Run ω} (hrecord : documentRecord row = .ok record) :
    documentsOf settings row w r =
      match urlOf settings.platform "exportRfx" with
      | .ok _ =>
          ((Snapshot.ofReply record (w (.exchange (.showRecord record)) r.memory).1).bind
            Summary.listed, r.asking w (.exchange (.showRecord record)))
      | .error failure => (.error failure, r) := by
  unfold documentsOf
  rw [hrecord, Action.ofExcept_ok, pure_bind, Action.bind_apply, fetchRecord_course,
    show (Request.showRecord record).endpoint = "exportRfx" from rfl]
  cases urlOf settings.platform "exportRfx" with
  | error failure => rfl
  | ok url =>
      dsimp only
      cases Snapshot.ofReply record (w (.exchange (.showRecord record)) r.memory).1 with
      | error failure => rfl
      | ok snapshot => exact ofExcept_apply _ _

/-- Documents are read off the record as the platform shows it. -/
theorem documentsOf_ok {r : Run ω} {documents : List Summary}
    (h : (documentsOf settings row w r).1 = .ok documents) :
    (documentsOf settings row w r).2.session = r.session ∧
      ∃ record snapshot, documentRecord row = .ok record ∧
        Snapshot.ofReply record (w (.exchange (.showRecord record)) r.memory).1 = .ok snapshot ∧
        Named snapshot ∧ documents = (attachmentsOf snapshot).map documentOf := by
  cases hrecord : documentRecord row with
  | error failure =>
      unfold documentsOf at h
      rw [hrecord] at h
      cases h
  | ok record =>
      rw [documentsOf_course hrecord] at h ⊢
      cases hurl : urlOf settings.platform "exportRfx" with
      | error failure =>
          rw [hurl] at h
          cases h
      | ok url =>
          rw [hurl] at h
          dsimp only at h ⊢
          cases hshown : Snapshot.ofReply record
              (w (.exchange (.showRecord record)) r.memory).1 with
          | error failure =>
              rw [hshown] at h
              cases h
          | ok snapshot =>
              rw [hshown] at h
              exact ⟨rfl, record, snapshot, rfl, hshown, listed_eq_ok_iff.1 h⟩

/-- Documents are listed only of an event with a record, and listing them changes nothing. -/
theorem listDocuments_ok {documents : List Summary}
    (h : ((Call.listDocuments project event).visit settings w saved memory).1 = .ok documents) :
    ((Call.listDocuments project event).visit settings w saved memory).2.session = .fresh saved ∧
      ∃ row record snapshot, Shelf settings saved project event row record ∧
        Snapshot.ofReply record (w (.exchange (.showRecord record))
          (w.wait settings.attempts memory).memory).1 = .ok snapshot ∧
        Named snapshot ∧ documents = (attachmentsOf snapshot).map documentOf := by
  have hvisit : (Call.listDocuments project event).visit settings w saved memory =
      (findEvent settings project event >>= documentsOf settings) w (.start saved memory) := rfl
  rw [hvisit] at h ⊢
  cases hfound : saved.event settings.naming project event
      (w.wait settings.attempts memory).answered with
  | error failure =>
      have hsearch :=
        findEvent_course (w := w) (r := .start saved memory) rfl settings project event
      rw [Action.bind_of_error (hsearch.trans (Prod.ext hfound rfl))] at h
      cases h
  | ok row =>
      rw [Action.bind_of_ok (findEvent_found rfl hfound)] at h ⊢
      obtain ⟨hsession, record, snapshot, hrecord, hshown, hdocuments⟩ := documentsOf_ok h
      obtain ⟨hnames, -, hreads⟩ := Store.event_eq_ok_iff_names.1 hfound
      obtain ⟨hplatform, hexternal, hnonempty⟩ := documentRecord_eq_ok_iff_row.1 hrecord
      have shelf : Shelf settings saved project event row record :=
        ⟨hnames, hreads, hplatform, hexternal, hnonempty⟩
      exact ⟨hsession, row, record, snapshot, shelf, hshown, hdocuments⟩

/-! ## Fetching what is listed -/

/-- The id of a listed document asks for its file and for nothing else. -/
theorem Shelf.fetched (shelf : Shelf settings saved project event row record) {ω' : Type}
    {c : Fetching ω'} {key : Key} (h : c.Takes settings saved project event key.id)
    (hsign : 0 ≤ key.file) (hsize : Number.IsShort key.file) :
    requestsOf c.visit.2.asked = [.showFile key] ∧ c.visit.1 = fileOfReply key (c.reply key) := by
  have ready : c.Ready row record key := by
    refine ⟨shelf.owned h, ?_⟩
    rw [h.document]
    exact Key.ofId?_id hsign hsize
  refine ⟨Fetching.requestsOf_of_addressed ready h.addressed, ?_⟩
  rw [Fetching.visit_of_addressed ready h.addressed]

/-- A minus sign is taken for the dash behind the file id, so the id is refused. -/
theorem Shelf.refused (shelf : Shelf settings saved project event row record) {ω' : Type}
    {c : Fetching ω'} {key : Key} (h : c.Takes settings saved project event key.id)
    (hsign : key.file < 0) :
    requestsOf c.visit.2.asked = [] ∧ c.visit.1 = .error (.documentIdMalformed key.id) := by
  have hindered : c.Hindered (.documentIdMalformed c.document) := by
    refine .undecoded (shelf.owned h) ?_
    rw [h.document]
    exact Key.ofId?_id_of_neg hsign
  obtain ⟨hfailed, hwithheld⟩ := Fetching.visit_of_hindered hindered
  rw [h.document] at hfailed
  exact ⟨hwithheld.unsent, hfailed⟩

/-- Each listed document comes from one attachment, and its id asks for exactly the file and name of
that attachment, unless its file id is negative: then the id is refused and nothing is asked for.
Two listed documents have one id only if they have one file id and one name. -/
theorem listed_fetched (settings : Settings) (w : Surroundings ω) (saved : Store) (memory : ω)
    (project : Int) (event : String) (documents : List Summary)
    (h : ((Call.listDocuments project event).visit settings w saved memory).1 = .ok documents) :
    ((Call.listDocuments project event).visit settings w saved memory).2.session = .fresh saved ∧
      ∃ row record snapshot, Shelf settings saved project event row record ∧
        Snapshot.ofReply record (w (.exchange (.showRecord record))
          (w.wait settings.attempts memory).memory).1 = .ok snapshot ∧
        Named snapshot ∧ documents = (attachmentsOf snapshot).map documentOf ∧
        (∀ a ∈ attachmentsOf snapshot, ∀ {ω' : Type} (c : Fetching ω'),
          c.Takes settings saved project event (documentOf a).id →
          let key := Summary.keyOf a.2
          (0 ≤ key.file → requestsOf c.visit.2.asked = [.showFile key] ∧
            c.visit.1 = fileOfReply key (c.reply key)) ∧
          (key.file < 0 → requestsOf c.visit.2.asked = [] ∧
            c.visit.1 = .error (.documentIdMalformed (documentOf a).id))) ∧
        ∀ a ∈ attachmentsOf snapshot, ∀ b ∈ attachmentsOf snapshot,
          (documentOf a).id = (documentOf b).id ↔ Summary.keyOf a.2 = Summary.keyOf b.2 := by
  obtain ⟨hsession, row, record, snapshot, shelf, hshown, hnamed, hdocuments⟩ :=
    listDocuments_ok h
  refine ⟨hsession, row, record, snapshot, shelf, hshown, hnamed, hdocuments, ?_, ?_⟩
  · intro a ha ω' c htakes key
    have hsize : Number.IsShort key.file :=
      isShort_keyOf (isShort_of_mem_attachmentsOf (Snapshot.isShort_of_ofReply hshown) ha)
    exact ⟨fun hsign => shelf.fetched htakes hsign hsize, fun hsign => shelf.refused htakes hsign⟩
  · intro a _ b _
    exact Key.id_injective.eq_iff

end

/-- A call in the first of two events, on a platform whose first record lists one file. -/
def takingOf (key : Key) : Fetching Unit where
  settings := benchSettings
  surroundings := twoRecords key ⟨9, "paper.pdf"⟩
  saved := { projects := [benchProject], rows := twoRows }
  memory := ()
  project := 1
  event := "ocds-b5fd17-1"
  document := key.id

/-- A name with a dash in it is listed, and its id asks for that very file. -/
theorem listed_fetched_bench :
    let key : Key := ⟨7, "terms-v2.pdf"⟩
    let c := takingOf key
    let listing := (Call.listDocuments c.project c.event).visit c.settings c.surroundings c.saved
      c.memory
    let documents : List Summary := [{ id := key.id, name := key.name, audience := .buyer }]
    listing.1 = .ok documents ∧ c.Takes c.settings c.saved c.project c.event key.id ∧
      requestsOf c.visit.2.asked = [.showFile key] := by
  intro key c listing documents
  have hlisted : listing.1 = .ok documents := by decide +kernel
  have htakes : c.Takes c.settings c.saved c.project c.event key.id :=
    ⟨rfl, rfl, rfl, rfl, rfl, rfl, "http://remote.test/attachment", by decide +kernel⟩
  obtain ⟨-, row, record, snapshot, -, -, -, hdocuments, hfetch, -⟩ :=
    listed_fetched c.settings c.surroundings c.saved c.memory c.project c.event documents hlisted
  have hmem : documents.head! ∈ (attachmentsOf snapshot).map documentOf :=
    hdocuments ▸ List.mem_cons_self
  obtain ⟨a, ha, hdocument⟩ := List.mem_map.1 hmem
  have hid : (documentOf a).id = key.id := congrArg Summary.id hdocument
  have hkey : Summary.keyOf a.2 = key := Key.id_injective hid
  have hfetched := (hfetch a ha c (hid ▸ htakes)).1 (by rw [hkey]; decide)
  rw [hkey] at hfetched
  exact ⟨hlisted, htakes, hfetched.1⟩

/-- The platform lists a file with a negative id. The document is listed, but its id is refused and
no file is asked for. -/
theorem negative_unfetched :
    let key : Key := ⟨-5, "a.txt"⟩
    let c := takingOf key
    let listing := (Call.listDocuments c.project c.event).visit c.settings c.surroundings c.saved
      c.memory
    (listing.1.map fun documents => documents.map (·.id)) = .ok [key.id] ∧
      c.visit.1 = .error (.documentIdMalformed key.id) ∧ requestsOf c.visit.2.asked = [] := by
  decide +kernel

end Desk
end TenderDesk
