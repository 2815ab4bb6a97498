import TenderDesk.Proofs.Desk.Dispatch
import TenderDesk.Proofs.Sourcing.Merge

/-!
# Updates — the one field that a change of a record sets

A change is sent with the id and the reference code of the record, and with one field more. Whatever
the record looks like, everything beside that field is as it was afterwards.

* `Request.SendsField request path value`: what the request sends has the field at `path`, with
  `value`, and no other but those that address the record.
* `Touches` tells for each call which field that is. A list of suppliers is sent even if it is
  empty.
* `update_touches_field` puts this together with the way in which the platform merges changes.
-/

namespace TenderDesk

namespace Sourcing

/-! ## Values that are sent -/

/-- Suppliers as they are sent. -/
def suppliersJson (companies : List Int) : Json :=
  .arr (companies.map fun id => .obj [("companyData", .obj [("id", .int id)])])

/-- The list of a record that holds the attachments of an audience. -/
def attachmentsName : Document.Audience → String
  | .buyer => "buyerAttachmentsList"
  | .supplier => "sellerAttachmentsList"

/-- A request sends one field of a record, which it addresses, and nothing else. -/
def Request.SendsField (request : Request) (path : List RawText) (value sent : Json) : Prop :=
  ∃ (command : Command) (id reference : Json),
    request.payload? = some (.obj [("operationCode", .str command.name), ("rfx", sent)]) ∧
      sent.fields = [(idPath, id), (referencePath, reference), (path, value)]

end Sourcing

namespace Desk

open Sourcing Document

variable {ω : Type} {w : Surroundings ω} {m : ω} {s : Settings} {saved : Store} {row : Row}

/-- The field of a record that a call may set, and its new value. -/
inductive Touches (w : Surroundings ω) (m : ω) (saved : Store) (asked : List Question) :
    Call → List RawText → Json → Prop
  | renamed {project : Int} {event : String} {edit : EventEdit} {principal name : String}
      (hname : newName edit = some name) :
      Touches w m saved asked (.updateEvent project event edit principal)
        ["rfxSetting", "shortDescription"] (.str name)
  | added {project : Int} {event : String} {refs : List SupplierRef} {overwrite : Bool}
      {principal : String} :
      Touches w m saved asked (.addSuppliers project event refs overwrite principal)
        ["suppliersList", "supplier"] (suppliersJson (companiesOf saved (refs.map (·.id))))
  | deleted {project : Int} {event organisation principal record : String} {link : Link}
      {reply : Reply} {snapshot : Snapshot} (hlink : saved.linkOf? organisation = some link)
      (htold : w.Tells m asked (.exchange (.showRecord record)) reply)
      (hshown : Snapshot.ofReply record reply = .ok snapshot) :
      Touches w m saved asked (.deleteSupplier project event organisation principal)
        ["suppliersList", "supplier"] (suppliersJson (remaining snapshot link.company))
  | uploaded {project : Int} {event : String} {upload : Upload} :
      Touches w m saved asked (.uploadDocument project event upload)
        [attachmentsName upload.audience, "attachment"]
        (.arr [.obj [("fileName", .str upload.fileName),
          ("fileDescription", .ofText? upload.description)]])

/-! ## Payloads -/

/-- The members that address a record, and more behind them. -/
def keyJson (id reference : Option String) (more : List (RawText × Json)) : List (RawText × Json) :=
  ("rfxId", .ofText? id) :: ("rfxReferenceCode", .ofText? reference) :: more

theorem write_title (id reference : Option String) (name : String) :
    Rfx.codec.write { head := .set { Head.key id reference with title := .set name } } =
      .obj [("rfxSetting", .obj (keyJson id reference [("shortDescription", .str name)]))] := by
  cases id <;> cases reference <;> rfl

theorem write_suppliers (id reference : Option String) (companies : List Int) :
    Rfx.codec.write { Rfx.key id reference with suppliers := .set (.ofCompanies companies) } =
      .obj [("rfxSetting", .obj (keyJson id reference [])),
        ("suppliersList", .obj [("supplier", suppliersJson companies)])] := by
  have hlist : SupplierList.codec.write (.ofCompanies companies) =
      .obj [("supplier", suppliersJson companies)] := by
    show Json.obj [("supplier", .arr ((companies.map _).map _))] = _
    rw [List.map_map]
    rfl
  rw [← hlist]
  cases id <;> cases reference <;> rfl

theorem write_attachment (row : Row) (fileName : String) (description : Option String)
    (audience : Audience) :
    Rfx.codec.write (attachmentChange row fileName description audience) =
      .obj [("rfxSetting", .obj (keyJson row.externalId row.reference [])),
        (attachmentsName audience, .obj [("attachment", .arr [.obj [("fileName", .str fileName),
          ("fileDescription", .ofText? description)]])])] := by
  unfold attachmentChange
  generalize row.externalId = id
  generalize row.reference = reference
  cases audience <;> cases id <;> cases reference <;> cases description <;> rfl

theorem titleChange_sends (row : Row) (name : String) :
    (Request.write ⟨.createUpdate, titleChange row name⟩).SendsField
      ["rfxSetting", "shortDescription"] (.str name) (Rfx.codec.write (titleChange row name)) := by
  refine ⟨.createUpdate, .ofText? row.externalId, .ofText? row.reference, rfl, ?_⟩
  unfold titleChange
  rw [write_title]
  cases row.externalId <;> cases row.reference <;> rfl

theorem supplierChange_sends (command : Command) (row : Row) (companies : List Int) :
    (Request.write ⟨command, supplierChange row companies⟩).SendsField
      ["suppliersList", "supplier"] (suppliersJson companies)
      (Rfx.codec.write (supplierChange row companies)) := by
  refine ⟨command, .ofText? row.externalId, .ofText? row.reference, rfl, ?_⟩
  unfold supplierChange
  rw [write_suppliers]
  cases row.externalId <;> cases row.reference <;> rfl

theorem attachmentChange_sends (row : Row) (upload : Upload) :
    let rfx := attachmentChange row upload.fileName upload.description upload.audience
    (Request.upload upload.fileName upload.data ⟨.createUpdate, rfx⟩).SendsField
      [attachmentsName upload.audience, "attachment"]
      (.arr [.obj [("fileName", .str upload.fileName),
        ("fileDescription", .ofText? upload.description)]]) (Rfx.codec.write rfx) := by
  intro rfx
  refine ⟨.createUpdate, .ofText? row.externalId, .ofText? row.reference, rfl, ?_⟩
  rw [write_attachment]
  cases row.externalId <;> cases row.reference <;> rfl

/-! ## Requests of calls -/

theorem tells_append {before after : List Question} {q : Question} {answer : q.Answer}
    (h : w.Tells m before q answer) : w.Tells m (before ++ after) q answer := by
  rcases h with ⟨front, back, rfl, hanswer⟩
  exact ⟨front, back ++ after, by simp, hanswer⟩

/-- No call touches the fields that address a record. -/
theorem Touches.not_address {asked : List Question} {call : Call} {path : List RawText}
    {value : Json} (h : Touches w m saved asked call path value) : path ∉ addressPaths := by
  cases h with
  | uploaded =>
      rename_i upload
      cases upload.audience <;> decide
  | _ => decide

/-- A request to change a record sends the one field that its call touches. -/
theorem Dispatch.touches {saved' : Store} {call : Call} {before after : List Question}
    {request : Request} (h : Dispatch s w m saved saved' call before request)
    (hupdate : request.isUpdate = true) :
    ∃ path value sent, Touches w m saved (before ++ after) call path value ∧
      request.SendsField path value sent := by
  cases h with
  | opened | recorded | surveyed | shown | listed | reshown | fetched | published => cases hupdate
  | retitled hrow hrecord hname =>
      exact ⟨_, _, _, .renamed hname, titleChange_sends _ _⟩
  | added hrow hkeeper hlinked =>
      exact ⟨_, _, _, .added, supplierChange_sends _ _ _⟩
  | delisted hrow hkeeper hlink htold hshown =>
      exact ⟨_, _, _, .deleted hlink (tells_append htold) hshown, supplierChange_sends _ _ _⟩
  | uploaded hrow hrecord =>
      exact ⟨_, _, _, .uploaded, attachmentChange_sends _ _⟩

/-- Every change of a record that a call asks for sends one field beside those that address the
record, the field that the call touches. Merged into whatever record, the field has the value that
was sent, and what stands on any path apart from it is as it was. -/
theorem update_touches_field (s : Settings) (w : Surroundings ω) (call : Call) (saved : Store)
    (m : ω) (request : Request)
    (hrequest : request ∈ requestsOf (call.visit s w saved m).2.asked)
    (hupdate : request.isUpdate = true) :
    ∃ path value sent,
      Touches w m saved (call.visit s w saved m).2.asked call path value ∧
        request.SendsField path value sent ∧
        ∀ record : Json, (merge sent record).at? path = some value ∧
          ∀ other, Json.Apart path other → (merge sent record).at? other = record.at? other := by
  obtain ⟨before, after, hasked, hdispatch⟩ := visit_dispatches s w call saved m hrequest
  obtain ⟨path, value, sent, htouches, hsends⟩ := hdispatch.touches hupdate
  rw [hasked]
  refine ⟨path, value, sent, htouches, hsends, fun record => ?_⟩
  obtain ⟨command, id, reference, -, hfields⟩ := hsends
  have hmerge : merge sent record = .setAt path value record :=
    merge_of_one hfields htouches.not_address record
  rw [hmerge]
  exact ⟨Json.at?_setAt_self path value record, fun other => Json.at?_setAt_of_apart⟩

/-- An export of a record that lists one company, and a receipt for whatever is sent next. -/
def lastSupplierScene : Scene where
  now := default
  replies := [
    .ofJson (.obj [("dataList", .arr [.obj [("suppliersList", .obj [("supplier",
      .arr [.obj [("companyData", .obj [("id", .int 1001)])]])])]])]),
    .ofReceipt benchDone]

/-- The list of suppliers is emptied by a call that replaces it by nothing, and by one that deletes
the last supplier. Both send the empty list. -/
theorem update_touches_field_bench :
    let row : Row := {
      id := 1, project := 1, name := "Pens", kind := "RFI", naming := {},
      externalId := some "rfq_1", createdBy := "", updatedBy := "" }
    let saved : Store :=
      { projects := [benchProject], links := [⟨"GB-COH-111", 1001⟩], rows := [row] }
    let replaced := (Call.addSuppliers 1 "ocds-b5fd17-1" [] true "user").visit benchSettings bench
      saved []
    let deleted := (Call.deleteSupplier 1 "ocds-b5fd17-1" "GB-COH-111" "user").visit benchSettings
      Scene.surroundings saved lastSupplierScene
    let request : Request := .write ⟨.updateReset, supplierChange row []⟩
    request ∈ requestsOf replaced.2.asked ∧ request ∈ requestsOf deleted.2.asked ∧
      request.isUpdate = true ∧
      ∃ sent, request.SendsField ["suppliersList", "supplier"] (.arr []) sent ∧
        ∀ record, (merge sent record).at? ["suppliersList", "supplier"] = some (.arr []) := by
  intro row saved replaced deleted request
  have hreplaced : request ∈ requestsOf replaced.2.asked := by decide +kernel
  have hdeleted : request ∈ requestsOf deleted.2.asked := by decide +kernel
  obtain ⟨path, value, sent, htouches, hsends, hmerged⟩ :=
    update_touches_field benchSettings bench (.addSuppliers 1 "ocds-b5fd17-1" [] true "user") saved
      [] request hreplaced rfl
  cases htouches with
  | added => exact ⟨hreplaced, hdeleted, rfl, sent, hsends, fun record => (hmerged record).1⟩

end Desk
end TenderDesk
