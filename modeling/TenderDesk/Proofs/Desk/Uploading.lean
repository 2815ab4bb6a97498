import TenderDesk.Proofs.Desk.Catalogue
import TenderDesk.Proofs.Document.Check
import TenderDesk.Proofs.Settings.Source

/-!
# Uploading — which files are uploaded, and what stops the others

A file is looked at before anything is asked, and what there is already only after that.

* `Uploading.Ready` collects what an upload needs, each layer on top of the one before.
* `Uploading.Hindered` tells the failure of the first layer that is missing, and what was asked of
  the platform until then.
* `Envelope` says what a change that carries an attachment holds, and what it leaves alone.
* `upload_sent_iff`: a file is uploaded exactly when everything is ready, once, and behind one look
  at the record.
* `unnamed_unsent`: a file on the record whose name cannot be written keeps every other file from
  being uploaded.
-/

namespace TenderDesk
namespace Desk

open Schema Sourcing Document

/-! ## Envelopes -/

/-- The attachments of an audience in a record. -/
def attachmentSlot : Audience → Rfx → Slot AttachmentList
  | .buyer, rfx => rfx.buyerAttachments
  | .supplier, rfx => rfx.sellerAttachments

/-- The list of attachments that an upload adds. -/
def Upload.entry (upload : Upload) : AttachmentList where
  attachments :=
    .set [{ name := .set upload.fileName, description := .ofOption upload.description }]

/-- A change carries one attachment for its audience, and nothing but the identifiers of the record
besides. -/
structure Envelope (row : Row) (upload : Upload) (change : Change) : Prop where
  command : change.command = .createUpdate
  head : change.rfx.head = .set (Head.key row.externalId row.reference)
  own : attachmentSlot upload.audience change.rfx = .set upload.entry
  other : ∀ audience, audience ≠ upload.audience → attachmentSlot audience change.rfx = .absent
  notes : change.rfx.notes = .absent
  suppliers : change.rfx.suppliers = .absent

/-- The change that an upload sends along with its file. -/
def envelopeOf (row : Row) (upload : Upload) : Change :=
  ⟨.createUpdate, attachmentChange row upload.fileName upload.description upload.audience⟩

theorem envelope_envelopeOf (row : Row) (upload : Upload) :
    Envelope row upload (envelopeOf row upload) := by
  unfold envelopeOf
  cases haudience : upload.audience with
  | buyer =>
      refine ⟨rfl, rfl, by rw [haudience]; rfl, fun audience hne => ?_, rfl, rfl⟩
      cases audience with
      | buyer => exact absurd haudience.symm hne
      | supplier => rfl
  | supplier =>
      refine ⟨rfl, rfl, by rw [haudience]; rfl, fun audience hne => ?_, rfl, rfl⟩
      cases audience with
      | buyer => rfl
      | supplier => exact absurd haudience.symm hne

/-- The member under which the attachments of an audience are sent. -/
def listLabel : Audience → String
  | .buyer => "buyerAttachmentsList"
  | .supplier => "sellerAttachmentsList"

/-- Sent are the octets of the file, and the attachments of its audience alone. -/
theorem body_envelopeOf (row : Row) (upload : Upload) :
    (Request.upload upload.fileName upload.data (envelopeOf row upload)).body = .form [
      { name := "data", contentType := some "application/json",
        content := .json (.obj [("operationCode", .str "CREATEUPDATE"),
          ("rfx", .obj [("rfxSetting", Head.codec.write (Head.key row.externalId row.reference)),
            (listLabel upload.audience, AttachmentList.codec.write upload.entry)])]) },
      { name := "file", fileName := some upload.fileName, content := .octets upload.data }] := by
  unfold envelopeOf
  cases upload.audience <;> rfl

/-! ## Courses -/

section

variable {ω : Type} {w : Surroundings ω} {p : Platform} {r : Run ω}

theorem uploadFile_course (fileName : String) (data : List UInt8) (change : Change) :
    uploadFile p fileName data change w r =
      match urlOf p "createRfx" with
      | .ok _ =>
          ((w (.exchange (.upload fileName data change)) r.memory).1.told
            (Receipt.ofLooseAnswer "document upload") "createRfx",
              r.asking w (.exchange (.upload fileName data change)))
      | .error failure => (.error failure, r) :=
  change_course (.upload fileName data change) _

end

/-- An upload of a file for an event, and everything that it meets. -/
structure Uploading (ω : Type) where
  settings : Settings
  surroundings : Surroundings ω
  /-- Where the upload begins. -/
  run : Run ω
  row : Row
  upload : Upload

namespace Uploading

variable {ω : Type}

/-! ## What the upload meets -/

def size (c : Uploading ω) : Nat :=
  c.upload.data.length

/-- What the attachments on a record come to, in bytes. -/
def total (snapshot : Snapshot) : Int :=
  ((snapshot.buyerItems ++ snapshot.sellerItems).map bytesOf).sum

/-- The request that uploads the file. -/
def request (c : Uploading ω) : Request :=
  .upload c.upload.fileName c.upload.data (envelopeOf c.row c.upload)

/-- What the platform replies when it is asked for the record first. -/
def reply (c : Uploading ω) (record : String) : Reply :=
  (c.surroundings (.exchange (.showRecord record)) c.run.memory).1

/-- How the upload ends. -/
def visit (c : Uploading ω) : Except Failure Summary × Run ω :=
  uploadTo c.settings c.row c.upload c.surroundings c.run

/-- The requests of the upload, without those that came before it. -/
def sent (c : Uploading ω) : List Request :=
  (requestsOf c.visit.2.asked).drop (requestsOf c.run.asked).length

/-! ## What it needs -/

structure Owned (c : Uploading ω) (record : String) : Prop where
  platform : ∃ kind : EventKind, c.row.kind = kind.name ∧ kind.owner = .platform
  external : c.row.externalId = some record
  nonempty : record ≠ ""

structure Allowed (c : Uploading ω) (record : String) : Prop extends Owned c record where
  extension : extension c.upload.fileName ∈ c.settings.documents.extensions
  small : (c.size : Int) ≤ c.settings.documents.maxSize

structure Shown (c : Uploading ω) (record : String) (snapshot : Snapshot) : Prop
    extends Allowed c record where
  found : ∃ url, urlOf c.settings.platform "exportRfx" = .ok url
  shown : Snapshot.ofReply record (c.reply record) = .ok snapshot

/-- There is room for the file beside what the record shows. -/
structure Fitting (c : Uploading ω) (record : String) (snapshot : Snapshot) : Prop
    extends Shown c record snapshot where
  room : total snapshot + c.size ≤ c.settings.documents.maxTotal

structure Ready (c : Uploading ω) (record : String) (snapshot : Snapshot) : Prop
    extends Fitting c record snapshot where
  /-- The documents are listed before their sizes are summed up, and each has to have an id. -/
  named : Named snapshot

/-- The settings tell where records are written. -/
def Addressed (c : Uploading ω) : Prop :=
  ∃ url, urlOf c.settings.platform "createRfx" = .ok url

/-- The first need that is not met decides the failure, and what was asked until then. -/
inductive Hindered (c : Uploading ω) : Failure → List Request → Prop
  | unowned {failure : Failure} (h : documentRecord c.row = .error failure) : Hindered c failure []
  | refused {record : String} (needs : c.Owned record)
      (h : extension c.upload.fileName ∉ c.settings.documents.extensions) :
      Hindered c (.extensionRefused (sorted c.settings.documents.extensions)) []
  | large {record : String} (needs : c.Owned record)
      (hextension : extension c.upload.fileName ∈ c.settings.documents.extensions)
      (h : c.settings.documents.maxSize < c.size) :
      Hindered c (.fileTooLarge c.size c.settings.documents.maxSize) []
  | unasked {record : String} {failure : Failure} (needs : c.Allowed record)
      (h : urlOf c.settings.platform "exportRfx" = .error failure) : Hindered c failure []
  | unshown {record url : String} {failure : Failure} (needs : c.Allowed record)
      (hurl : urlOf c.settings.platform "exportRfx" = .ok url)
      (h : Snapshot.ofReply record (c.reply record) = .error failure) :
      Hindered c failure [.showRecord record]
  | unnamed {record : String} {snapshot : Snapshot} {failure : Failure}
      (needs : c.Shown record snapshot) (h : Summary.listed snapshot = .error failure) :
      Hindered c failure [.showRecord record]
  | full {record : String} {snapshot : Snapshot} (needs : c.Shown record snapshot)
      (hnamed : Named snapshot)
      (h : c.settings.documents.maxTotal < total snapshot + c.size) :
      Hindered c (.totalTooLarge c.row.publicId c.settings.documents.maxTotal (total snapshot)
        (attachmentsOf snapshot).length) [.showRecord record]
  | unaddressed {record : String} {snapshot : Snapshot} {failure : Failure}
      (needs : c.Ready record snapshot)
      (h : urlOf c.settings.platform "createRfx" = .error failure) :
      Hindered c failure [.showRecord record]

/-! ## The upload, stage by stage -/

variable {c : Uploading ω} {record : String} {snapshot : Snapshot} {failure : Failure}

/-- The run after the record was shown. -/
def looked (c : Uploading ω) (record : String) : Run ω :=
  c.run.asking c.surroundings (.exchange (.showRecord record))

/-- The run after the file was sent. -/
def done (c : Uploading ω) (record : String) : Run ω :=
  (c.looked record).asking c.surroundings (.exchange c.request)

/-- What follows the look at the record. -/
def sending (c : Uploading ω) (documents : List Summary) : Action ω Summary := do
  .ofExcept (checkTotal c.settings.documents c.row documents c.size)
  let _ ← uploadFile c.settings.platform c.upload.fileName c.upload.data
    (envelopeOf c.row c.upload)
  let documents ← documentsOf c.settings c.row
  .ofOption .uploadLost (documents.find? fun d => d.name == c.upload.fileName)

theorem owned_iff : documentRecord c.row = .ok record ↔ c.Owned record := by
  rw [documentRecord_eq_ok_iff_row]
  constructor
  · rintro ⟨hplatform, hexternal, hnonempty⟩
    exact ⟨hplatform, hexternal, hnonempty⟩
  · intro howned
    exact ⟨howned.platform, howned.external, howned.nonempty⟩

theorem visit_of_owned (h : c.Owned record) :
    c.visit = (Action.ofExcept (checkFile c.settings.documents c.upload.fileName c.size) >>=
      fun _ => documentsOf c.settings c.row >>= c.sending) c.surroundings c.run := by
  unfold visit uploadTo
  rw [owned_iff.2 h]
  rfl

theorem visit_of_allowed (h : c.Allowed record) :
    c.visit = (documentsOf c.settings c.row >>= c.sending) c.surroundings c.run := by
  have hfile : checkFile c.settings.documents c.upload.fileName c.size = .ok () :=
    checkFile_eq_ok_iff.2 ⟨h.extension, h.small⟩
  rw [visit_of_owned h.toOwned, hfile]
  rfl

theorem documentsOf_of_found {r : Run ω} {url : String} (h : c.Owned record)
    (hurl : urlOf c.settings.platform "exportRfx" = .ok url) :
    documentsOf c.settings c.row c.surroundings r =
      ((Snapshot.ofReply record (c.surroundings (.exchange (.showRecord record)) r.memory).1).bind
        Summary.listed, r.asking c.surroundings (.exchange (.showRecord record))) := by
  rw [documentsOf_course (owned_iff.2 h), hurl]

/-- The listing before the upload is of what the platform replies at first. -/
theorem documentsOf_run {url : String} (h : c.Owned record)
    (hurl : urlOf c.settings.platform "exportRfx" = .ok url) :
    documentsOf c.settings c.row c.surroundings c.run =
      ((Snapshot.ofReply record (c.reply record)).bind Summary.listed, c.looked record) :=
  documentsOf_of_found h hurl

theorem visit_of_shown (h : c.Shown record snapshot) (hnamed : Named snapshot) :
    c.visit = c.sending (Summary.ofSnapshot snapshot) c.surroundings (c.looked record) := by
  rcases h.found with ⟨url, hurl⟩
  have hlist := documentsOf_run h.toOwned hurl
  rw [h.shown] at hlist
  have hlist : documentsOf c.settings c.row c.surroundings c.run =
      (.ok (Summary.ofSnapshot snapshot), c.looked record) :=
    hlist.trans (congrArg (·, _) (listed_of_named hnamed))
  rw [visit_of_allowed h.toAllowed]
  exact Action.bind_of_ok hlist

theorem checkTotal_of_room (h : c.Ready record snapshot) :
    checkTotal c.settings.documents c.row (Summary.ofSnapshot snapshot) c.size = .ok () := by
  unfold checkTotal
  rw [totalSize_ofSnapshot]
  exact if_neg (Int.not_lt.2 h.room)

theorem checkTotal_of_full (h : c.settings.documents.maxTotal < total snapshot + c.size) :
    checkTotal c.settings.documents c.row (Summary.ofSnapshot snapshot) c.size =
      .error (.totalTooLarge c.row.publicId c.settings.documents.maxTotal (total snapshot)
        (attachmentsOf snapshot).length) := by
  have hlength : (Summary.ofSnapshot snapshot).length = (attachmentsOf snapshot).length := by
    simp [ofSnapshot_eq]
  unfold checkTotal
  rw [totalSize_ofSnapshot, hlength]
  exact if_pos h

/-- What the platform made of the file. -/
def answer (c : Uploading ω) (record : String) : Except Failure Receipt :=
  (c.surroundings (.exchange c.request) (c.looked record).memory).1.told
    (Receipt.ofLooseAnswer "document upload") "createRfx"

/-- What the platform shows when it is asked for the record again. -/
def again (c : Uploading ω) (record : String) : Except Failure Snapshot :=
  Snapshot.ofReply record
    (c.surroundings (.exchange (.showRecord record)) (c.done record).memory).1

theorem uploadFile_of_addressed (ha : c.Addressed) (record : String) :
    uploadFile c.settings.platform c.upload.fileName c.upload.data (envelopeOf c.row c.upload)
        c.surroundings (c.looked record) =
      (c.answer record, c.done record) := by
  rcases ha with ⟨url, hurl⟩
  have hsent := uploadFile_course (w := c.surroundings) (p := c.settings.platform)
    (r := c.looked record) c.upload.fileName c.upload.data (envelopeOf c.row c.upload)
  rw [hurl] at hsent
  exact hsent

theorem visit_of_ready (h : c.Ready record snapshot) :
    c.visit = (uploadFile c.settings.platform c.upload.fileName c.upload.data
      (envelopeOf c.row c.upload) >>= fun _ => do
        let documents ← documentsOf c.settings c.row
        .ofOption .uploadLost (documents.find? fun d => d.name == c.upload.fileName))
      c.surroundings (c.looked record) := by
  rw [visit_of_shown h.toShown h.named]
  unfold sending
  rw [checkTotal_of_room h]
  rfl

/-- A file that was refused is not looked for, and the refusal is the failure. -/
theorem visit_of_rejected {failure : Failure} (h : c.Ready record snapshot) (ha : c.Addressed)
    (hfailure : c.answer record = .error failure) :
    c.visit = (.error failure, c.done record) := by
  have hsent := uploadFile_of_addressed ha record
  rw [hfailure] at hsent
  rw [visit_of_ready h]
  exact Action.bind_of_error hsent

/-- After an upload the documents are listed once more, and the first one of the name is told. -/
theorem visit_of_accepted {receipt : Receipt} (h : c.Ready record snapshot) (ha : c.Addressed)
    (hreceipt : c.answer record = .ok receipt) :
    c.visit = (((c.again record).bind Summary.listed).bind fun documents =>
      match documents.find? fun d => d.name == c.upload.fileName with
      | some d => .ok d
      | none => .error .uploadLost,
      (c.done record).asking c.surroundings (.exchange (.showRecord record))) := by
  have hsent := uploadFile_of_addressed ha record
  rw [hreceipt] at hsent
  rcases h.found with ⟨url, hurl⟩
  have hlist : documentsOf c.settings c.row c.surroundings (c.done record) =
      ((c.again record).bind Summary.listed,
        (c.done record).asking c.surroundings (.exchange (.showRecord record))) :=
    documentsOf_of_found h.toOwned hurl
  rw [visit_of_ready h]
  refine (Action.bind_of_ok hsent).trans ?_
  rw [Action.bind_apply, hlist]
  cases (c.again record).bind Summary.listed with
  | error failure => rfl
  | ok documents =>
      dsimp only [Except.bind]
      cases documents.find? fun d => d.name == c.upload.fileName <;> rfl

/-! ## What was asked -/

/-- The session stands where the upload began, and these are the requests since then. -/
structure Asked (c : Uploading ω) (requests : List Request) (r : Run ω) : Prop where
  session : r.session = c.run.session
  requests : requestsOf r.asked = requestsOf c.run.asked ++ requests

theorem asked_nothing (c : Uploading ω) : c.Asked [] c.run where
  session := rfl
  requests := (List.append_nil _).symm

theorem Asked.asking {requests : List Request} {r : Run ω} (h : c.Asked requests r)
    (request : Request) :
    c.Asked (requests ++ [request]) (r.asking c.surroundings (.exchange request)) where
  session := h.session
  requests := by simp [h.requests, Question.request?]

theorem Asked.sent_eq {requests : List Request} (h : c.Asked requests c.visit.2) :
    c.sent = requests := by
  simp [sent, h.requests]

theorem asked_looked (c : Uploading ω) (record : String) :
    c.Asked [.showRecord record] (c.looked record) :=
  c.asked_nothing.asking (.showRecord record)

theorem asked_done (c : Uploading ω) (record : String) :
    c.Asked [.showRecord record, c.request] (c.done record) :=
  (c.asked_looked record).asking c.request

/-- Where everything is ready the file is sent, and if it is taken the record is shown again. -/
theorem asked_of_ready (h : c.Ready record snapshot) (ha : c.Addressed) :
    ∃ rest, c.Asked (.showRecord record :: c.request :: rest) c.visit.2 ∧
      rest = if (c.answer record).isOk then [.showRecord record] else [] := by
  cases hanswer : c.answer record with
  | error fault =>
      refine ⟨[], ?_, rfl⟩
      rw [visit_of_rejected h ha hanswer]
      exact c.asked_done record
  | ok receipt =>
      refine ⟨[.showRecord record], ?_, rfl⟩
      rw [visit_of_accepted h ha hanswer]
      exact (c.asked_done record).asking (.showRecord record)

/-- What stops an upload decides its failure, and nothing is uploaded. -/
theorem visit_of_hindered {requests : List Request} (h : c.Hindered failure requests) :
    c.visit.1 = .error failure ∧ c.Asked requests c.visit.2 := by
  -- The needs that come with each case lead the upload up to the guard that stops it.
  cases h with
  | unowned h =>
      have hvisit : c.visit = (.error failure, c.run) := by
        unfold visit uploadTo
        rw [h]
        rfl
      rw [hvisit]
      exact ⟨rfl, c.asked_nothing⟩
  | refused needs h =>
      rw [visit_of_owned needs, checkFile_of_refused h]
      exact ⟨rfl, c.asked_nothing⟩
  | large needs hextension h =>
      rw [visit_of_owned needs, checkFile_of_large hextension h]
      exact ⟨rfl, c.asked_nothing⟩
  | unasked needs h =>
      have hlist : documentsOf c.settings c.row c.surroundings c.run = (.error failure, c.run) := by
        rw [documentsOf_course (owned_iff.2 needs.toOwned), h]
      rw [visit_of_allowed needs, Action.bind_of_error hlist]
      exact ⟨rfl, c.asked_nothing⟩
  | unshown needs hurl h =>
      rename_i record url
      have hlist := documentsOf_run needs.toOwned hurl
      rw [h] at hlist
      rw [visit_of_allowed needs, Action.bind_of_error hlist]
      exact ⟨rfl, c.asked_looked record⟩
  | unnamed needs h =>
      rename_i record snapshot
      obtain ⟨url, hurl⟩ := needs.found
      have hlist := documentsOf_run needs.toOwned hurl
      rw [needs.shown] at hlist
      have hunlisted : documentsOf c.settings c.row c.surroundings c.run =
          (.error failure, c.looked record) := hlist.trans (congrArg (·, _) h)
      rw [visit_of_allowed needs.toAllowed, Action.bind_of_error hunlisted]
      exact ⟨rfl, c.asked_looked record⟩
  | full needs hnamed h =>
      rename_i record snapshot
      rw [visit_of_shown needs hnamed]
      unfold sending
      rw [checkTotal_of_full h]
      exact ⟨rfl, c.asked_looked record⟩
  | unaddressed needs h =>
      rename_i record snapshot
      have hunsent := uploadFile_course (w := c.surroundings) (p := c.settings.platform)
        (r := c.looked record) c.upload.fileName c.upload.data (envelopeOf c.row c.upload)
      rw [h] at hunsent
      rw [visit_of_ready needs, Action.bind_of_error hunsent]
      exact ⟨rfl, c.asked_looked record⟩

/-! ## All uploads -/

/-- Either everything is there for the upload, or something stops it. -/
theorem settled (c : Uploading ω) :
    (c.Addressed ∧ ∃ record snapshot, c.Ready record snapshot) ∨
      ∃ failure requests, c.Hindered failure requests := by
  -- The guards, in the order in which an upload passes them.
  cases hrecord : documentRecord c.row with
  | error failure => exact .inr ⟨failure, _, .unowned hrecord⟩
  | ok record =>
      have owned : c.Owned record := owned_iff.1 hrecord
      by_cases hextension : extension c.upload.fileName ∈ c.settings.documents.extensions
      case neg => exact .inr ⟨_, _, .refused owned hextension⟩
      by_cases hlarge : c.settings.documents.maxSize < c.size
      case pos => exact .inr ⟨_, _, .large owned hextension hlarge⟩
      have allowed : c.Allowed record := ⟨owned, hextension, Int.not_lt.1 hlarge⟩
      cases hurl : urlOf c.settings.platform "exportRfx" with
      | error failure => exact .inr ⟨failure, _, .unasked allowed hurl⟩
      | ok url =>
          cases hshown : Snapshot.ofReply record (c.reply record) with
          | error failure => exact .inr ⟨failure, _, .unshown allowed hurl hshown⟩
          | ok snapshot =>
              have shown : c.Shown record snapshot := ⟨allowed, ⟨url, hurl⟩, hshown⟩
              by_cases hnamed : Named snapshot
              case neg =>
                obtain ⟨message, hunlisted⟩ := listed_of_unnamed hnamed
                exact .inr ⟨_, _, .unnamed shown hunlisted⟩
              by_cases hfull : c.settings.documents.maxTotal < total snapshot + c.size
              case pos => exact .inr ⟨_, _, .full shown hnamed hfull⟩
              have ready : c.Ready record snapshot := ⟨⟨shown, Int.not_lt.1 hfull⟩, hnamed⟩
              cases haddress : urlOf c.settings.platform "createRfx" with
              | error failure => exact .inr ⟨failure, _, .unaddressed ready haddress⟩
              | ok url' => exact .inl ⟨⟨url', haddress⟩, record, snapshot, ready⟩

theorem Hindered.unsent {requests : List Request} (h : c.Hindered failure requests)
    (fileName : String) (data : List UInt8) (change : Change) :
    Request.upload fileName data change ∉ requests := by
  cases h <;> simp

/-- An upload request is sent exactly when everything is ready: an event with a record on the
platform, an allowed extension, a file that is not too large, a record that can be read, an id for
each document on it, and room for the file beside all attachments that it lists. It is sent once,
behind one look at the record, with the file as it is and for its audience alone. Otherwise the
first need that is not met decides the failure and what was asked of the platform until then.
Settings that were loaded know the addresses that are needed. -/
theorem upload_sent_iff (c : Uploading ω) :
    c.visit.2.session = c.run.session ∧
      requestsOf c.visit.2.asked = requestsOf c.run.asked ++ c.sent ∧
      ((∃ fileName data change, .upload fileName data change ∈ c.sent) ↔
        c.Addressed ∧ ∃ record snapshot, c.Ready record snapshot) ∧
      (∀ record snapshot, c.Addressed → c.Ready record snapshot →
        ∃ change, Envelope c.row c.upload change ∧
          c.sent = .showRecord record :: .upload c.upload.fileName c.upload.data change ::
            (if (c.answer record).isOk then [.showRecord record] else [])) ∧
      (∀ failure requests, c.Hindered failure requests →
        c.visit.1 = .error failure ∧ c.sent = requests) ∧
      ((∀ fileName data change, .upload fileName data change ∉ c.sent) →
        ∃ failure requests, c.Hindered failure requests) ∧
      ∀ source attempts, Settings.Source.load source attempts = .ok c.settings →
        c.Addressed ∧ ∃ url, urlOf c.settings.platform "exportRfx" = .ok url := by
  have hready : ∀ record snapshot, c.Addressed → c.Ready record snapshot →
      c.Asked (.showRecord record :: c.request ::
        (if (c.answer record).isOk then [.showRecord record] else [])) c.visit.2 := by
    intro record snapshot ha h
    rcases asked_of_ready h ha with ⟨rest, hasked, rfl⟩
    exact hasked
  have hasked : ∃ requests, c.Asked requests c.visit.2 := by
    rcases c.settled with ⟨ha, record, snapshot, h⟩ | ⟨failure, requests, h⟩
    · exact ⟨_, hready record snapshot ha h⟩
    · exact ⟨_, (visit_of_hindered h).2⟩
  rcases hasked with ⟨requests, hasked⟩
  -- What was sent is known in both cases, so every part is read off the one that applies.
  refine ⟨hasked.session, ?_, ⟨?_, ?_⟩, ?_, ?_, ?_, ?_⟩
  · rw [hasked.sent_eq]
    exact hasked.requests
  · rintro ⟨fileName, data, change, hmem⟩
    rcases c.settled with hall | ⟨failure, requests, h⟩
    · exact hall
    · rw [(visit_of_hindered h).2.sent_eq] at hmem
      exact absurd hmem (h.unsent fileName data change)
  · rintro ⟨ha, record, snapshot, h⟩
    rw [(hready record snapshot ha h).sent_eq]
    exact ⟨_, _, _, List.mem_cons_of_mem _ List.mem_cons_self⟩
  · intro record snapshot ha h
    exact ⟨envelopeOf c.row c.upload, envelope_envelopeOf c.row c.upload,
      (hready record snapshot ha h).sent_eq⟩
  · intro failure requests h
    rcases visit_of_hindered h with ⟨hfailed, hasked⟩
    exact ⟨hfailed, hasked.sent_eq⟩
  · intro hunsent
    rcases c.settled with ⟨ha, record, snapshot, h⟩ | hhindered
    · rw [(hready record snapshot ha h).sent_eq] at hunsent
      exact absurd (List.mem_cons_of_mem _ List.mem_cons_self) (hunsent _ _ _)
    · exact hhindered
  · intro source attempts hload
    exact ⟨Settings.urlOf_of_load hload c.request, Settings.urlOf_of_load hload (.showRecord "")⟩

end Uploading

/-! ## A name that no document can have -/

/-- A name that begins with half of a pair. -/
def tornName : TornText where
  before := []
  half := ⟨0xD800, by decide⟩
  after := ".txt".toList.map .char

/-- The record of an upload, with a file of that name on it. -/
def tornSnapshot : Snapshot where
  buyerAttachments :=
    .set { attachments := .set [{ file := .set 1, name := .set (.torn tornName) }] }

/-- An upload to that record, which the platform would accept. -/
def besideTorn : Uploading Scene where
  settings :=
    { benchSettings with documents := { extensions := ["txt"], maxSize := 9, maxTotal := 9 } }
  surroundings := Scene.surroundings
  run := .start {}
    { now := default
      replies := [.ofJson (.obj [("dataList", .arr [Snapshot.codec.write tornSnapshot])]),
        .ofReceipt benchDone] }
  row :=
    { id := 1, project := 1, name := "Pens", kind := "RFI", externalId := some "rfq_1"
      naming := benchSettings.naming, createdBy := "", updatedBy := "" }
  upload := { fileName := "a.txt", data := [104, 105], audience := .buyer }

/-- The record is shown, the file is allowed and there is room for it, but one of the files on the
record has no id: nothing is uploaded. -/
theorem unnamed_unsent :
    let c := besideTorn
    c.Addressed ∧ c.Fitting "rfq_1" tornSnapshot ∧
      c.visit.1 = .error (.nameRefused
        "'utf-8' codec can't encode character '\\ud800' in position 2: surrogates not allowed") ∧
      c.sent = [.showRecord "rfq_1"] ∧
      ∀ fileName data change, .upload fileName data change ∉ c.sent := by
  intro c
  have haddressed : c.Addressed := by
    refine ⟨"http://remote.test/create", ?_⟩
    show urlOf benchSettings.platform "createRfx" = .ok "http://remote.test/create"
    decide +kernel
  have hfitting : c.Fitting "rfq_1" tornSnapshot := {
    platform := ⟨.rfi, rfl, rfl⟩
    external := rfl
    nonempty := by decide
    extension := by decide +kernel
    small := by decide
    found := by
      refine ⟨"http://remote.test/export", ?_⟩
      show urlOf benchSettings.platform "exportRfx" = .ok "http://remote.test/export"
      decide +kernel
    shown := by decide +kernel
    room := by decide }
  have hsent : c.sent = [.showRecord "rfq_1"] := by decide +kernel
  refine ⟨haddressed, hfitting, by decide +kernel, hsent, fun fileName data change => ?_⟩
  rw [hsent]
  simp

end Desk
end TenderDesk
