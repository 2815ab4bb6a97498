import TenderDesk.Proofs.Desk.Reading

/-!
# Operations — what each operation that changes something does, whatever is followed on the way

Each operation is gone through once, for every trail: `L ws` is what is known when the changes `ws`
were made, and `J request receipt` what is known after the one change of an operation that makes
one. A trail has to stand what the operation asks, and nothing else is assumed of it.

* `Opened` tells what was done for a new event, `Changed` what was done for an edit.
* What a call comes to, and what it may send, are read off for trails of their own.
-/

namespace TenderDesk
namespace Desk

open Sourcing Document

variable {ω : Type} {w : Surroundings ω} {σ : Session} {I : Trail ω} {L : List Write → Trail ω}
  {J : Request → Receipt → Trail ω} {saved : Store} {P : Request → Prop}

/-! ## Creating -/

/-- What was opened for a new event, and the row that was added for it. -/
inductive Opened (settings : Settings) (saved : Store) (project : Int) (request : NewEvent)
    (downSelected : Bool) (principal : String) : List Write → Row → Prop
  | intro {p : Project} (hproject : saved.project? project = some p) {name : String}
      (hname : titleFor settings.platform p request.name (request.kind.getD .tbd) = .ok name)
      {ws : List Write} {row : Row}
      (hrow : Equipped (draft settings p name (request.kind.getD .tbd) downSelected principal)
        (request.kind.getD .tbd) principal ws row) :
      Opened settings saved project request downSelected principal ws
        { row with id := saved.nextId }

theorem Opened.id {settings : Settings} {project : Int} {request : NewEvent} {downSelected : Bool}
    {principal : String} {ws : List Write} {row : Row}
    (h : Opened settings saved project request downSelected principal ws row) :
    row.id = saved.nextId := by
  cases h
  rfl

/-- The kind of a new row is the one that was asked for, so its summary can be told. -/
theorem Opened.told {settings : Settings} {project : Int} {request : NewEvent}
    {downSelected : Bool} {principal : String} {ws : List Write} {row : Row}
    (h : Opened settings saved project request downSelected principal ws row) (status : Status)
    {failure : Failure} : summary row status ≠ .error failure := by
  cases h with
  | intro hproject hname hrow =>
      have hkind := ofName_eq_ok_iff.2 hrow.kind_eq
      unfold summary
      dsimp only
      rw [hkind]
      exact fun h => by cases h

theorem createEvent_triple (hl : w.Keeps Question.IsLookup (L []))
    (hs : w.Keeps Question.IsService (L [])) (hc : ∀ ws, w.Keeps (· = .commit) (L ws))
    (settings : Settings) (project : Int) (request : NewEvent) (downSelected : Bool)
    (hcreate : ∀ name rfx, IsRecordFor name rfx →
      Sends w (creation rfx) (L []) fun receipt => L [(creation rfx, receipt)])
    (principal : String) :
    Triple w (Run.At (.fresh saved) (L []))
      (createEvent settings project request downSelected principal)
      (fun told r => ∃ ws row,
        (Opened settings saved project request downSelected principal ws row ∧
          summary row .planning = .ok told) ∧ r.At (.fresh (saved.add row)) (L ws))
      (fun _ r => r.session = .fresh saved ∧ Unfinished L r) := by
  unfold createEvent
  apply Triple.bind ((findProject_triple hl settings project).mono_fail
    fun _ r h => ⟨h.at_fresh.1, .inl h.2⟩)
  intro p
  apply Triple.of_fact
  intro hproject
  dsimp only
  apply Triple.bind (Triple.ofExcept_knowing.mono_fail fun _ r h => ⟨h.1, .inl h.2⟩)
  intro name
  apply Triple.of_fact
  intro hname
  apply Triple.bind (openEvent_brings hl hs hc settings p _ rfl (hcreate _) _ request.assessment
    principal)
  intro row
  refine Triple.ofExcept ?_ ?_
  · rintro told htold r ⟨ws, equipped, hrow, rfl, h⟩
    exact ⟨ws, _, ⟨.intro hproject hname hrow, htold⟩, h⟩
  · rintro failure hfailure r ⟨ws, equipped, hrow, rfl, -⟩
    have hopened : Opened settings saved project request downSelected principal ws
        { equipped with id := saved.nextId } := .intro hproject hname hrow
    exact absurd hfailure (hopened.told .planning)

/-! ## Changing -/

/-- What was done for an edit of an event, and the row that is to be saved for it. -/
inductive Changed (settings : Settings) (saved : Store) (project : Int) (event : String)
    (edit : EventEdit) : List Write → Row → Prop
  | intro {before row row' : Row} {ws : List Write}
      (hbefore : Names settings.naming saved project event before)
      (hrow : Revised before edit row) (hrow' : Brought before edit row ws row') :
      Changed settings saved project event edit ws row'

/-- Where the session stands when the edits of a row were saved, if there are any. -/
def savedSession (saved : Store) (row : Row) (edit : EventEdit) (principal : String) : Session :=
  if isEdit edit then .fresh (saved.replace (signed row edit principal))
  else ⟨saved, saved.replace row, none⟩

/-- What an update does before it tells the status of its event. -/
def changeEvent (settings : Settings) (project : Int) (event : String) (edit : EventEdit)
    (principal : String) : Action ω Row := do
  let before ← findEvent settings project event
  let row ← stageEdits before edit principal
  let row ← (updateRecord settings before row edit principal).onFailure .rollback
  saveEdits row edit principal

theorem updateEvent_eq (settings : Settings) (project : Int) (event : String) (edit : EventEdit)
    (principal : String) :
    (updateEvent settings project event edit principal : Action ω EventSummary) =
      (do
        let row ← changeEvent settings project event edit principal
        let (status, _) ← statusOf settings row principal
        .ofExcept (summary row status)) := by
  unfold updateEvent changeEvent
  simp only [bind_assoc]

theorem changeEvent_triple (hl : w.Keeps Question.IsLookup (L []))
    (hs : w.Keeps Question.IsService (L [])) (hc : ∀ ws, w.Keeps (· = .commit) (L ws))
    (settings : Settings) {project : Int} {event : String} {edit : EventEdit}
    (hcreate : ∀ before, Names settings.naming saved project event before →
      before.record? = none → ∀ rfx, IsRecordFor ((newName edit).getD before.name) rfx →
        Sends w (creation rfx) (L []) fun receipt => L [(creation rfx, receipt)])
    (htitle : ∀ before, Names settings.naming saved project event before →
      ∀ record name, before.record? = some record → newName edit = some name →
        Sends w (.write ⟨.createUpdate, titleChange before name⟩) (L []) fun receipt =>
          L [(.write ⟨.createUpdate, titleChange before name⟩, receipt)])
    (principal : String) :
    Triple w (Run.At (.fresh saved) (L [])) (changeEvent settings project event edit principal)
      (fun last r => ∃ ws row, (Changed settings saved project event edit ws row ∧
        last = signed row edit principal) ∧
          r.At (savedSession saved row edit principal) (L ws))
      (fun _ r => r.session.saved = saved ∧ Unfinished L r) := by
  unfold changeEvent
  apply Triple.bind ((findEvent_triple hl settings project event).mono_fail
    fun _ r h => ⟨h.saved, .inl h.2⟩)
  intro before
  apply Triple.of_fact
  intro hbefore
  -- What was staged may be left in the session, but it was not saved.
  refine Triple.bind ((stageEdits_triple hs before edit principal).mono_fail
    fun _ r h => ⟨congrArg Session.saved h.1, .inl h.2⟩) fun row => ?_
  apply Triple.of_fact
  intro hrow
  have hsame : row.record? = before.record? := hrow.record?_eq
  have hname : row.name = (newName edit).getD before.name := congrArg Row.name hrow.rest
  refine Triple.bind (R := fun row' r => ∃ ws, Brought before edit row ws row' ∧
      r.At ⟨saved, saved.replace row', none⟩ (L ws)) ?_ fun row' => ?_
  · refine Triple.onFailure (updateRecord_brings hl hs settings ?_ ?_ principal)
      fun _ r h => ⟨h.saved, .inl h.2⟩
    · exact fun hnone rfx hrfx => hcreate before hbefore (hsame ▸ hnone) rfx (hname ▸ hrfx)
    · exact fun record name hrecord => htitle before hbefore record name (hsame ▸ hrecord)
  refine Triple.of_exists fun ws => Triple.of_fact fun hrow' => ?_
  refine (saveEdits_triple (hc ws) row' edit principal).mono (fun _ h => h) ?_ ?_
  · rintro last r ⟨rfl, h⟩
    refine ⟨ws, row', ⟨.intro hbefore hrow hrow', rfl⟩, ?_⟩
    unfold savedSession
    split at h
    · rename_i hedit
      rw [if_pos hedit]
      exact h
    · rename_i hedit
      rw [if_neg hedit]
      exact h
  · exact fun _ r h => ⟨h.1.1, .inr ⟨h.2, ws, h.1.2⟩⟩

/-! ## Publishing -/

theorem publishEvent_triple (hI : w.Keeps (Question.Asks P) I) (settings : Settings)
    {project : Int} {event : String} {dates : Publication}
    (hP : ∀ row record, Names settings.naming σ.working project event row →
      row.record? = some record → P (.showRecord record))
    (hJ : ∀ row record user, Names settings.naming σ.working project event row →
      row.record? = some record →
        let request := Request.publish (publishOrder record row.reference dates user)
        Sends w request I (J request))
    (principal : String) :
    Triple w (Run.At σ I) (publishEvent settings project event dates principal)
      (fun _ r => ∃ row record user receipt, (Names settings.naming σ.working project event row ∧
        row.record? = some record) ∧
          r.At σ (J (.publish (publishOrder record row.reference dates user)) receipt))
      (fun _ => Run.Near σ I) := by
  have hl : w.Keeps Question.IsLookup I := hI.mono fun _ => Question.asks_of_isLookup
  have hs : w.Keeps Question.IsService I := hI.mono fun _ => Question.asks_of_isService
  unfold publishEvent
  apply Triple.bind (findUser_triple hs principal).near
  intro user
  apply Triple.of_fact
  intro _
  apply Triple.bind (findEvent_triple hl settings project event)
  intro row
  apply Triple.of_fact
  intro hrow
  cases hrecord : row.record? with
  | none => exact Triple.fail fun r h => h.near
  | some record =>
      apply Triple.bind (statusOf_triple hI settings (hP row · hrow) principal).near
      intro status
      dsimp only
      split
      · refine Triple.bind (Triple.ask_keeping hI trivial) fun now => ?_
        apply Triple.bind Triple.ofExcept_keeping.near
        intro _
        apply Triple.bind (publishRecord_triple (hJ row record user hrow hrecord)).near
        intro receipt
        exact Triple.pure fun r h => ⟨row, record, user, receipt, ⟨hrow, hrecord⟩, h⟩
      · exact Triple.fail fun r h => h.near

/-! ## Suppliers -/

/-- The companies of organisations, each once. -/
def companiesOf (saved : Store) (organisations : List String) : List Int :=
  (organisations.eraseDups.filterMap saved.linkOf?).map (·.company)

/-- The change that sends the suppliers that are added to an event. -/
def addition (saved : Store) (row : Row) (refs : List SupplierRef) (overwrite : Bool) : Request :=
  .write ⟨if overwrite then .updateReset else .createUpdate,
    supplierChange row (companiesOf saved (refs.map (·.id)))⟩

theorem addSuppliers_triple (hl : w.Keeps Question.IsLookup I) (hc : w.Keeps (· = .commit) I)
    (settings : Settings) {project : Int} {event : String} {refs : List SupplierRef}
    {overwrite : Bool}
    (hJ : ∀ row, Names settings.naming saved project event row → keeper row = .ok .platform →
      Linked saved (refs.map (·.id)) →
        Sends w (addition saved row refs overwrite) I (J (addition saved row refs overwrite)))
    (principal : String) :
    Triple w (Run.At (.fresh saved) I)
      (addSuppliers settings project event refs overwrite principal)
      (fun _ r => ∃ row, Names settings.naming saved project event row ∧
        (keeper row = .ok .table ∧
            r.At (.fresh (saved.replace
              (withSuppliers row (refs.map (·.id)).eraseDups overwrite principal))) I ∨
          (keeper row = .ok .platform ∧ Linked saved (refs.map (·.id))) ∧
            ∃ receipt, r.At (.fresh saved) (J (addition saved row refs overwrite) receipt)))
      (fun _ => Run.Kept saved I) := by
  unfold addSuppliers
  apply Triple.bind (findEvent_triple hl settings project event).kept
  intro row
  apply Triple.of_fact
  intro hrow
  refine Triple.bind ?_ fun _ => Triple.pure fun r h => h
  unfold addSuppliersTo
  apply Triple.bind (links_finds hl settings _).kept
  intro found
  apply Triple.of_fact
  rintro ⟨hlinked, rfl⟩
  apply Triple.bind Triple.ofExcept_knowing.near.kept
  intro k
  apply Triple.of_fact
  intro hkeeper
  cases k with
  | table =>
      -- The selections are told by the organisations that were asked for, each once.
      rw [map_organisation_of_linked (linked_eraseDups.2 hlinked)]
      apply Triple.bind (stage_triple _)
      intro _
      refine (save_triple hc).mono (fun _ h => h) ?_ fun _ _ h => h.1
      exact fun _ r h => ⟨row, hrow, .inl ⟨hkeeper, h⟩⟩
  | platform =>
      apply Triple.bind (writeRecord_triple (hJ row hrow hkeeper hlinked)).near.kept
      intro receipt
      exact Triple.pure fun r h => ⟨row, hrow, .inr ⟨⟨hkeeper, hlinked⟩, receipt, h⟩⟩

/-- The companies that a record lists, without one of them. -/
def remaining (snapshot : Snapshot) (company : Int) : List Int :=
  (snapshot.supplierItems.filterMap Supplier.companyId?).filter fun c => c != company

/-- The change that sends the suppliers of an event again without one company. -/
def removal (row : Row) (snapshot : Snapshot) (link : Link) : Request :=
  .write ⟨.updateReset, supplierChange row (remaining snapshot link.company)⟩

/-- The row of an event without the selection of an organisation. -/
def deselected (row : Row) (organisation principal : String) : Row :=
  { row with
    selections := row.selections.eraseP fun s => s.organisation == organisation
    updatedBy := principal }

/-- Suppliers are deleted on the platform from the list that was just shown, so what is known of the
record `row` after it was shown is followed by `K`. -/
theorem deleteSupplier_triple {K : Row → Snapshot → Trail ω} (hl : w.Keeps Question.IsLookup I)
    (hc : w.Keeps (· = .commit) I) (settings : Settings) {project : Int}
    {event organisation : String}
    (hK : ∀ row, Names settings.naming saved project event row → keeper row = .ok .platform →
      Triple w (Run.At (.fresh saved) I) (fetchRecord settings.platform (recordName row))
        (fun snapshot => Run.At (.fresh saved) (K row snapshot))
        (fun _ => Run.At (.fresh saved) I))
    (hforget : ∀ row snapshot m asked, K row snapshot m asked → I m asked)
    (hJ : ∀ row link snapshot, Names settings.naming saved project event row →
      keeper row = .ok .platform → saved.linkOf? organisation = some link →
        Sends w (removal row snapshot link) (K row snapshot) (J (removal row snapshot link)))
    (principal : String) :
    Triple w (Run.At (.fresh saved) I)
      (deleteSupplier settings project event organisation principal)
      (fun _ r => ∃ row, Names settings.naming saved project event row ∧
        ((keeper row = .ok .table ∧ organisation ∈ row.organisations) ∧
            r.At (.fresh (saved.replace (deselected row organisation principal))) I ∨
          keeper row = .ok .platform ∧ ∃ snapshot link receipt,
            r.At (.fresh saved) (J (removal row snapshot link) receipt)))
      (fun _ => Run.Kept saved I) := by
  unfold deleteSupplier
  apply Triple.bind (findEvent_triple hl settings project event).kept
  intro row
  apply Triple.of_fact
  intro hrow
  unfold deleteSupplierOf
  apply Triple.bind (findLink_triple hl settings organisation).kept
  intro link
  apply Triple.of_fact
  intro hlink
  apply Triple.bind Triple.ofExcept_knowing.near.kept
  intro k
  apply Triple.of_fact
  intro hkeeper
  cases k with
  | table =>
      rw [organisation_of_linkOf? hlink]
      show Triple w _ (deleteSelection row organisation principal) _ _
      unfold deleteSelection
      split
      · rename_i hmem
        apply Triple.bind (stage_triple _)
        intro _
        refine (save_triple hc).mono (fun _ h => h) ?_ fun _ _ h => h.1
        exact fun _ r h => ⟨row, hrow, .inl ⟨⟨hkeeper, List.contains_iff_mem.1 hmem⟩, h⟩⟩
      · exact Triple.fail fun r h => h.kept
  | platform =>
      show Triple w _ (deleteListed settings row link) _ _
      unfold deleteListed
      apply Triple.bind (hK row hrow hkeeper).near.kept
      intro snapshot
      have forget : ∀ r : Run ω, r.At (.fresh saved) (K row snapshot) → r.Kept saved I :=
        fun r h => ⟨h.kept.1, hforget row snapshot _ _ h.2⟩
      dsimp only
      split
      · exact Triple.fail forget
      · refine Triple.bind ((writeRecord_triple (hJ row link snapshot hrow hkeeper
          hlink)).mono_fail fun _ => forget) fun receipt => ?_
        exact Triple.pure fun r h => ⟨row, hrow, .inr ⟨hkeeper, snapshot, link, receipt, h⟩⟩

/-! ## Documents -/

/-- The change that sends a file for an event. -/
def attaching (row : Row) (upload : Upload) : Request :=
  .upload upload.fileName upload.data ⟨.createUpdate, attachmentChange row upload.fileName
    upload.description upload.audience⟩

/-- A file was sent for the event, whatever came of it afterwards. -/
def Attached (settings : Settings) (project : Int) (event : String) (upload : Upload)
    (J : Request → Receipt → Trail ω) (σ : Session) (r : Run ω) : Prop :=
  ∃ row record receipt, (Names settings.naming σ.working project event row ∧
    documentRecord row = .ok record) ∧ r.At σ (J (attaching row upload) receipt)

theorem uploadDocument_triple (hI : w.Keeps (Question.Asks P) I)
    (hkept : ∀ request receipt, w.Keeps (Question.Asks P) (J request receipt))
    (settings : Settings) {project : Int} {event : String} {upload : Upload}
    (hP : ∀ row record, Names settings.naming σ.working project event row →
      documentRecord row = .ok record → P (.showRecord record))
    (hJ : ∀ row record, Names settings.naming σ.working project event row →
      documentRecord row = .ok record →
        Sends w (attaching row upload) I (J (attaching row upload))) :
    Triple w (Run.At σ I) (uploadDocument settings project event upload)
      (fun _ => Attached settings project event upload J σ)
      (fun _ r => r.Near σ I ∨ Attached settings project event upload J σ r) := by
  have hl : w.Keeps Question.IsLookup I := hI.mono fun _ => Question.asks_of_isLookup
  unfold uploadDocument
  apply Triple.bind ((findEvent_triple hl settings project event).mono_fail fun _ _ => .inl)
  intro row
  apply Triple.of_fact
  intro hrow
  have early : ∀ (failure : Failure) (r : Run ω), r.At σ I →
      r.Near σ I ∨ Attached settings project event upload J σ r := fun _ r h => .inl h.near
  unfold uploadTo
  apply Triple.bind (Triple.ofExcept_knowing.mono_fail early)
  intro record
  apply Triple.of_fact
  intro hrecord
  apply Triple.bind (Triple.ofExcept_keeping.mono_fail early)
  intro _
  apply Triple.bind ((documentsOf_triple hI settings (hP row · hrow)).mono_fail early)
  intro present
  apply Triple.bind (Triple.ofExcept_keeping.mono_fail early)
  intro _
  apply Triple.bind ((uploadFile_triple (hJ row record hrow hrecord)).mono_fail early)
  intro receipt
  -- The file is on the platform now, even when its summary cannot be told.
  have attached : ∀ r : Run ω, r.At σ (J (attaching row upload) receipt) →
      Attached settings project event upload J σ r :=
    fun r h => ⟨row, record, receipt, ⟨hrow, hrecord⟩, h⟩
  apply Triple.bind ((documentsOf_triple (hkept _ receipt) settings (hP row · hrow)).mono_fail
    fun _ r h => .inr (attached r h))
  intro documents
  exact Triple.ofOption (fun _ _ r h => attached r h) (fun _ r h => .inr (attached r h))

end Desk
end TenderDesk
