import TenderDesk.Desk.Call
import TenderDesk.Proofs.Desk.Operations

/-!
# Turn — everything that one call can do

`Turn s saved call ws saved'` says which changes `ws` a call may make on the platform while it turns
the saved store `saved` into `saved'`. Whatever holds of all turns holds of all visits: a visit
makes a turn, unless the store took back what it was to save (`visit_turn`).
-/

namespace TenderDesk
namespace Desk

open Sourcing Document

/-! ## Turns -/

inductive Turn (s : Settings) (saved : Store) : Call → List Write → Store → Prop
  -- Nothing was done: a reading call, or a call that failed early enough.
  | still (call : Call) : Turn s saved call [] saved
  -- An event was created, with what its kind needs.
  | opened {project : Int} {request : NewEvent} {downSelected : Bool} {principal : String}
      (p : Project) (hproject : saved.project? project = some p) (name : String)
      (hname : titleFor s.platform p request.name (request.kind.getD .tbd) = .ok name)
      {ws : List Write} {row : Row}
      (hrow : Equipped (draft s p name (request.kind.getD .tbd) downSelected principal)
        (request.kind.getD .tbd) principal ws row) :
      Turn s saved (.createEvent project request downSelected principal) ws
        (saved.add { row with id := saved.nextId })
  -- An event was changed, the platform first.
  | edited {project : Int} {event : String} {edit : EventEdit} {principal : String}
      {before row row' : Row} {ws : List Write}
      (hbefore : Names s.naming saved project event before) (hrow : Revised before edit row)
      (hrow' : Brought before edit row ws row') (hedit : isEdit edit) :
      Turn s saved (.updateEvent project event edit principal) ws
        (saved.replace { row' with updatedBy := principal })
  -- A call without edits brought the platform up to date, and saved nothing.
  | unsaved {project : Int} {event : String} {edit : EventEdit} {principal : String}
      {before row row' : Row} {ws : List Write}
      (hbefore : Names s.naming saved project event before) (hrow : Revised before edit row)
      (hrow' : Brought before edit row ws row') (hedit : isEdit edit = false) :
      Turn s saved (.updateEvent project event edit principal) ws saved
  -- Suppliers were added in the table, or on the record of the event.
  | selected {project : Int} {event : String} {refs : List SupplierRef} {overwrite : Bool}
      {principal : String} {row : Row} (hrow : Names s.naming saved project event row)
      (hkeeper : keeper row = .ok .table) :
      Turn s saved (.addSuppliers project event refs overwrite principal) []
        (saved.replace
          (withSuppliers row (refs.map (·.id)).eraseDups overwrite principal))
  | listed {project : Int} {event : String} {refs : List SupplierRef} {overwrite : Bool}
      {principal : String} {row : Row} (hrow : Names s.naming saved project event row)
      (hkeeper : keeper row = .ok .platform) (links : List Link)
      (hlinks : links.map (·.organisation) = (refs.map (·.id)).eraseDups) (receipt : Receipt) :
      Turn s saved (.addSuppliers project event refs overwrite principal)
        [(.write ⟨if overwrite then .updateReset else .createUpdate,
          supplierChange row (links.map (·.company))⟩, receipt)] saved
  -- A supplier was deleted from the table, or from the record of the event.
  | deselected {project : Int} {event organisation principal : String} {row : Row}
      (hrow : Names s.naming saved project event row) (hkeeper : keeper row = .ok .table)
      (hmem : organisation ∈ row.organisations) :
      Turn s saved (.deleteSupplier project event organisation principal) []
        (saved.replace { row with
          selections := row.selections.eraseP fun s => s.organisation == organisation
          updatedBy := principal })
  | delisted {project : Int} {event organisation principal : String} {row : Row}
      (hrow : Names s.naming saved project event row) (hkeeper : keeper row = .ok .platform)
      (companies : List Int) (receipt : Receipt) :
      Turn s saved (.deleteSupplier project event organisation principal)
        [(.write ⟨.updateReset, supplierChange row companies⟩, receipt)] saved
  -- A document was added to the record of the event.
  | uploaded {project : Int} {event : String} {upload : Upload} {row : Row}
      (hrow : Names s.naming saved project event row) {record : String}
      (hrecord : documentRecord row = .ok record) (receipt : Receipt) :
      Turn s saved (.uploadDocument project event upload)
        [(.upload upload.fileName upload.data ⟨.createUpdate, attachmentChange row upload.fileName
          upload.description upload.audience⟩, receipt)] saved
  -- The record of the event was published.
  | published {project : Int} {event : String} {dates : Publication} {principal : String}
      {row : Row} (hrow : Names s.naming saved project event row) {record : String}
      (hrecord : row.record? = some record) (user : String) (receipt : Receipt) :
      Turn s saved (.publishEvent project event dates principal)
        [(.publish (publishOrder record row.reference dates user), receipt)] saved

variable {ω : Type} {w : Surroundings ω} {m : ω} {s : Settings} {saved : Store} {call : Call}

/-- The call made a turn. -/
def Turned (s : Settings) (w : Surroundings ω) (m : ω) (saved : Store) (call : Call) (r : Run ω) :
    Prop :=
  ∃ ws, Turn s saved call ws r.session.saved ∧ Wrote w m ws r.memory r.asked

/-- The call came to nothing at last: the store took back what was to be saved. -/
def TakenBack (saved : Store) (r : Run ω) : Prop :=
  r.session.saved = saved ∧ r.EndsInCommit

instance (saved : Store) (r : Run ω) : Decidable (TakenBack saved r) :=
  inferInstanceAs (Decidable (_ ∧ _))

/-- How a call may end that fails. -/
def Ended (s : Settings) (w : Surroundings ω) (m : ω) (saved : Store) (call : Call)
    (_ : Failure) (r : Run ω) : Prop :=
  Turned s w m saved call r ∨ TakenBack saved r

/-- What is told of an event is told of a saved row. -/
def Tells (saved : Store) (told : EventSummary) : Prop :=
  ∃ row ∈ saved.rows, row.publicId = told.id ∧ row.kind = told.kind.name

theorem turned_of_kept {r : Run ω} (h : r.Kept saved (Wrote w m [])) (call : Call) :
    Turned s w m saved call r := by
  have hsaved : r.session.saved = saved := h.1
  exact ⟨[], hsaved ▸ .still call, h.2⟩

theorem turned_of_at {r : Run ω} {saved' : Store} {ws : List Write}
    (ht : Turn s saved call ws saved') {σ : Session} (hσ : σ.saved = saved')
    (h : r.At σ (Wrote w m ws)) : Turned s w m saved call r := by
  have hsaved : r.session.saved = saved' := (congrArg Session.saved h.1).trans hσ
  exact ⟨ws, hsaved ▸ ht, h.2⟩

theorem ended_of_kept {failure : Failure} {r : Run ω} (h : r.Kept saved (Wrote w m [])) :
    Ended s w m saved call failure r :=
  .inl (turned_of_kept h call)

theorem ended_of_near {failure : Failure} {r : Run ω}
    (h : r.Near (.fresh saved) (Wrote w m [])) : Ended s w m saved call failure r :=
  ended_of_kept h.kept

theorem ended_of_at {failure : Failure} {r : Run ω}
    (h : r.At (.fresh saved) (Wrote w m [])) : Ended s w m saved call failure r :=
  ended_of_near h.near

theorem lookups (w : Surroundings ω) (m : ω) (ws : List Write) :
    w.Keeps Question.IsLookup (Wrote w m ws) :=
  (Wrote.keeps_harmless m ws).mono fun _ => Question.isHarmless_of_isLookup

theorem services (w : Surroundings ω) (m : ω) (ws : List Write) :
    w.Keeps Question.IsService (Wrote w m ws) :=
  (Wrote.keeps_harmless m ws).mono fun _ => Question.isHarmless_of_isService

theorem commits (w : Surroundings ω) (m : ω) (ws : List Write) :
    w.Keeps (· = .commit) (Wrote w m ws) :=
  (Wrote.keeps_harmless m ws).mono fun _ hq => hq ▸ trivial

/-- What is known after one change that was made. -/
abbrev WroteOne (w : Surroundings ω) (m : ω) (request : Request) (receipt : Receipt) : Trail ω :=
  Wrote w m [(request, receipt)]

/-! ## Events -/

theorem Opened.turn {project : Int} {request : NewEvent} {downSelected : Bool}
    {principal : String} {ws : List Write} {row : Row}
    (h : Opened s saved project request downSelected principal ws row) :
    Turn s saved (.createEvent project request downSelected principal) ws (saved.add row) := by
  cases h with
  | intro hproject hname hrow => exact .opened _ hproject _ hname hrow

theorem createEvent_turn (project : Int) (request : NewEvent) (downSelected : Bool)
    (principal : String) :
    Triple w (Run.At (.fresh saved) (Wrote w m []))
      (createEvent s project request downSelected principal)
      (fun told r => Turned s w m saved (.createEvent project request downSelected principal) r ∧
        Tells r.session.saved told)
      (Ended s w m saved (.createEvent project request downSelected principal)) := by
  refine (createEvent_triple (L := Wrote w m) (lookups w m []) (services w m []) (commits w m) s
    project request downSelected (fun _ _ _ => Wrote.sends rfl m []) principal).mono
      (fun _ h => h) ?_ ?_
  · rintro told r ⟨ws, row, ⟨hopened, htold⟩, h⟩
    refine ⟨turned_of_at hopened.turn rfl h, row, ?_, summary_eq_ok htold⟩
    rw [h.1]
    exact Store.mem_add.2 (.inr rfl)
  · -- A record may have been created already when the commit fails, but only then.
    rintro failure r ⟨hsession, hwrote | ⟨hcommit, -⟩⟩
    · exact ended_of_at ⟨hsession, hwrote⟩
    · exact .inr ⟨congrArg Session.saved hsession, hcommit⟩

/-- What the platform was brought up to date with is told of the row that the edit was for. -/
theorem Brought.told {before row row' : Row} {edit : EventEdit} {ws : List Write}
    (h : Brought before edit row ws row') (hrow : Revised before edit row)
    (hedit : isEdit edit = false) :
    before.publicId = row'.publicId ∧ before.kind = row'.kind := by
  rcases h.same with ⟨hid, hnaming, hkind⟩
  unfold Row.publicId
  rw [hid, hnaming, hkind, hrow.id, hrow.naming, hrow.kind_of_no_edit hedit]
  exact ⟨rfl, rfl⟩

/-- The turn of an update is made where its edits are saved, and it is made without a save where
there are none. What is told of the event is told of a saved row. -/
theorem Changed.turn {project : Int} {event : String} {edit : EventEdit} {ws : List Write}
    {row' : Row} (h : Changed s saved project event edit ws row') (principal : String) :
    let saved' := (savedSession saved row' edit principal).saved
    Turn s saved (.updateEvent project event edit principal) ws saved' ∧
      ∃ row ∈ saved'.rows, row.publicId = (signed row' edit principal).publicId ∧
        row.kind = (signed row' edit principal).kind := by
  obtain ⟨hbefore, hrow, hrow'⟩ := h
  rename_i before row
  unfold savedSession signed
  by_cases hedit : isEdit edit
  · simp only [if_pos hedit]
    let last : Row := { row' with updatedBy := principal }
    have hid : before.id = last.id := hrow.id.symm.trans hrow'.same.1.symm
    have hmem : last ∈ (saved.replace last).rows := Store.mem_replace_of_mem hbefore.mem hid
    exact ⟨.edited hbefore hrow hrow' hedit, last, hmem, rfl, rfl⟩
  · -- Nothing was saved, so it is the row that was found that is told of.
    simp only [if_neg hedit]
    have hnone : isEdit edit = false := Bool.eq_false_iff.2 hedit
    exact ⟨.unsaved hbefore hrow hrow' hnone, before, hbefore.mem, hrow'.told hrow hnone⟩

theorem updateEvent_turn (project : Int) (event : String) (edit : EventEdit)
    (principal : String) :
    Triple w (Run.At (.fresh saved) (Wrote w m [])) (updateEvent s project event edit principal)
      (fun told r => Turned s w m saved (.updateEvent project event edit principal) r ∧
        Tells r.session.saved told)
      (Ended s w m saved (.updateEvent project event edit principal)) := by
  rw [updateEvent_eq]
  refine Triple.bind ((changeEvent_triple (L := Wrote w m) (lookups w m []) (services w m [])
    (commits w m) s (fun _ _ _ _ _ => Wrote.sends rfl m []) (fun _ _ _ _ _ _ =>
      Wrote.sends rfl m []) principal).mono_fail ?_) fun last => ?_
  · rintro failure r ⟨hsaved, hwrote | ⟨hcommit, -⟩⟩
    · exact .inl ⟨[], hsaved ▸ .still _, hwrote⟩
    · exact .inr ⟨hsaved, hcommit⟩
  refine Triple.of_exists fun ws => Triple.of_exists fun row' => Triple.of_fact ?_
  rintro ⟨hchanged, rfl⟩
  obtain ⟨turn, kept, hkept, hid, hkind⟩ := hchanged.turn principal
  -- The turn is made: whatever fails from here on leaves it as it is.
  refine Triple.bind ((statusOf_triple (Wrote.keeps_harmless m ws).asks s (fun _ _ => rfl)
    principal).mono_fail fun _ r h => .inl (turned_of_at turn rfl h)) fun status => ?_
  refine Triple.ofExcept ?_ (fun _ _ r h => .inl (turned_of_at turn rfl h))
  intro told htold r h
  refine ⟨turned_of_at turn rfl h, ?_⟩
  rcases summary_eq_ok htold with ⟨hid', hkind'⟩
  rw [h.1]
  exact ⟨kept, hkept, hid.trans hid', hkind.trans hkind'⟩

theorem publishEvent_turn (project : Int) (event : String) (dates : Publication)
    (principal : String) :
    Triple w (Run.At (.fresh saved) (Wrote w m [])) (publishEvent s project event dates principal)
      (fun _ => Turned s w m saved (.publishEvent project event dates principal))
      (Ended s w m saved (.publishEvent project event dates principal)) := by
  refine (publishEvent_triple (J := WroteOne w m) (Wrote.keeps_harmless m []).asks s
    (fun _ _ _ _ => rfl) (fun _ _ _ _ _ => Wrote.sends rfl m []) principal).mono
      (fun _ h => h) ?_ fun _ _ => ended_of_near
  rintro _ r ⟨row, record, user, receipt, ⟨hrow, hrecord⟩, h⟩
  exact turned_of_at (.published hrow hrecord user receipt) rfl h

/-! ## Suppliers -/

theorem addSuppliers_turn (project : Int) (event : String) (refs : List SupplierRef)
    (overwrite : Bool) (principal : String) :
    Triple w (Run.At (.fresh saved) (Wrote w m []))
      (addSuppliers s project event refs overwrite principal)
      (fun _ => Turned s w m saved (.addSuppliers project event refs overwrite principal))
      (Ended s w m saved (.addSuppliers project event refs overwrite principal)) := by
  refine (addSuppliers_triple (J := WroteOne w m) (lookups w m []) (commits w m []) s
    (fun _ _ _ _ => Wrote.sends rfl m []) principal).mono (fun _ h => h) ?_
      fun _ _ => ended_of_kept
  rintro _ r ⟨row, hrow, ⟨hkeeper, h⟩ | ⟨⟨hkeeper, hlinked⟩, receipt, h⟩⟩
  · exact turned_of_at (.selected hrow hkeeper) rfl h
  · have hfound := map_organisation_of_linked (linked_eraseDups.2 hlinked)
    exact turned_of_at (.listed hrow hkeeper _ hfound receipt) rfl h

theorem deleteSupplier_turn (project : Int) (event organisation principal : String) :
    Triple w (Run.At (.fresh saved) (Wrote w m []))
      (deleteSupplier s project event organisation principal)
      (fun _ => Turned s w m saved (.deleteSupplier project event organisation principal))
      (Ended s w m saved (.deleteSupplier project event organisation principal)) := by
  refine (deleteSupplier_triple (J := WroteOne w m) (lookups w m []) (commits w m []) s
    (fun _ _ _ => fetchRecord_triple (Wrote.keeps_harmless m []) rfl) (fun _ _ _ _ h => h)
    (fun _ _ _ _ _ _ => Wrote.sends rfl m []) principal).mono (fun _ h => h) ?_
      fun _ _ => ended_of_kept
  rintro _ r ⟨row, hrow, ⟨⟨hkeeper, hmem⟩, h⟩ | ⟨hkeeper, snapshot, link, receipt, h⟩⟩
  · exact turned_of_at (.deselected hrow hkeeper hmem) rfl h
  · exact turned_of_at (.delisted hrow hkeeper _ receipt) rfl h

/-! ## Documents -/

theorem uploadDocument_turn (project : Int) (event : String) (upload : Upload) :
    Triple w (Run.At (.fresh saved) (Wrote w m [])) (uploadDocument s project event upload)
      (fun _ => Turned s w m saved (.uploadDocument project event upload))
      (Ended s w m saved (.uploadDocument project event upload)) := by
  have turned : ∀ r : Run ω, Attached s project event upload (WroteOne w m) (.fresh saved) r →
      Turned s w m saved (.uploadDocument project event upload) r := by
    rintro r ⟨row, record, receipt, ⟨hrow, hrecord⟩, h⟩
    exact turned_of_at (.uploaded hrow hrecord receipt) rfl h
  refine (uploadDocument_triple (Wrote.keeps_harmless m []).asks
    (fun _ _ => (Wrote.keeps_harmless m _).asks) s (fun _ _ _ _ => rfl)
    (fun _ _ _ _ => Wrote.sends rfl m [])).mono (fun _ h => h) (fun _ => turned) ?_
  rintro failure r (h | h)
  · exact ended_of_near h
  · exact .inl (turned r h)

/-! ## Calls -/

/-- Reading makes the turn that does nothing. -/
theorem turn_of_reading {α : Type} {x : Action ω α} (call : Call)
    (h : Triple w (Run.At (.fresh saved) (Wrote w m [])) x
      (fun _ => Run.At (.fresh saved) (Wrote w m []))
      (fun _ => Run.Near (.fresh saved) (Wrote w m []))) :
    Triple w (Run.At (.fresh saved) (Wrote w m [])) x (fun _ => Turned s w m saved call)
      (Ended s w m saved call) :=
  h.mono (fun _ h => h) (fun _ _ h => turned_of_kept h.kept call) (fun _ _ h => ended_of_near h)

/-- What a call tells of the event that it was about. -/
def Call.told? : (call : Call) → call.Result → Option EventSummary
  | .createEvent _ _ _ _, told | .updateEvent _ _ _ _, told => some told
  | _, _ => none

theorem perform_turn (call : Call) :
    Triple w (Run.At (.fresh saved) (Wrote w m [])) (call.perform s)
      (fun result r => Turned s w m saved call r ∧
        ∀ told, call.told? result = some told → Tells r.session.saved told)
      (Ended s w m saved call) := by
  have hI := (Wrote.keeps_harmless (w := w) m []).asks
  have found := findEvent_triple (σ := .fresh saved) (lookups w m []) s
  have silent : ∀ {told : EventSummary} {P : Prop}, none = some told → P := fun h => by cases h
  cases call with
  | createEvent project request downSelected principal =>
      refine (createEvent_turn project request downSelected principal).mono_post ?_
      rintro told r ⟨hturned, htells⟩
      exact ⟨hturned, fun _ heq => Option.some.inj heq ▸ htells⟩
  | updateEvent project event edit principal =>
      refine (updateEvent_turn project event edit principal).mono_post ?_
      rintro told r ⟨hturned, htells⟩
      exact ⟨hturned, fun _ heq => Option.some.inj heq ▸ htells⟩
  | getEvent project event principal =>
      exact (turn_of_reading _ (getEvent_triple hI s (fun _ _ _ _ => rfl) principal)).mono_post
        fun _ r h => ⟨h, fun _ => silent⟩
  | listEvents project principal =>
      exact (turn_of_reading _ (listEvents_triple hI s (fun _ _ _ _ => rfl) principal)).mono_post
        fun _ r h => ⟨h, fun _ => silent⟩
  | publishEvent project event dates principal =>
      exact (publishEvent_turn project event dates principal).mono_post
        fun _ r h => ⟨h, fun _ => silent⟩
  | listSuppliers project event =>
      refine (turn_of_reading _ (Triple.bind (found project event) fun row => ?_)).mono_post
        fun _ r h => ⟨h, fun _ => silent⟩
      exact Triple.of_fact fun _ => suppliersOf_triple hI s fun _ => rfl
  | addSuppliers project event refs overwrite principal =>
      exact (addSuppliers_turn project event refs overwrite principal).mono_post
        fun _ r h => ⟨h, fun _ => silent⟩
  | deleteSupplier project event organisation principal =>
      exact (deleteSupplier_turn project event organisation principal).mono_post
        fun _ r h => ⟨h, fun _ => silent⟩
  | listDocuments project event =>
      refine (turn_of_reading _ (Triple.bind (found project event) fun row => ?_)).mono_post
        fun _ r h => ⟨h, fun _ => silent⟩
      exact Triple.of_fact fun _ => (documentsOf_triple hI s fun _ _ => rfl).near
  | uploadDocument project event upload =>
      exact (uploadDocument_turn project event upload).mono_post fun _ r h => ⟨h, fun _ => silent⟩
  | getDocument project event document =>
      refine (turn_of_reading _ (Triple.bind (found project event) fun row => ?_)).mono_post
        fun _ r h => ⟨h, fun _ => silent⟩
      exact Triple.of_fact fun _ => (fileOf_triple hI s fun _ _ _ _ => rfl).near

/-- A visit makes a turn, or the store took back what it was to save and the visit failed. -/
theorem visit_turn (s : Settings) (w : Surroundings ω) (call : Call) (saved : Store) (m : ω) :
    Turned s w m saved call (call.visit s w saved m).2 ∨
      (∃ failure, (call.visit s w saved m).1 = .error failure) ∧
        TakenBack saved (call.visit s w saved m).2 := by
  have start : (Run.start saved m).At (.fresh saved) (Wrote w m []) := ⟨rfl, rfl, rfl⟩
  rcases h : call.visit s w saved m with ⟨failure | result, r⟩
  · rcases (perform_turn call).of_error start h with ht | hb
    · exact .inl ht
    · exact .inr ⟨⟨failure, rfl⟩, hb⟩
  · exact .inl ((perform_turn call).of_ok start h).1

theorem visit_tells {result : call.Result} {r : Run ω} {told : EventSummary}
    (h : call.visit s w saved m = (.ok result, r)) (htold : call.told? result = some told) :
    Tells r.session.saved told := by
  have start : (Run.start saved m).At (.fresh saved) (Wrote w m []) := ⟨rfl, rfl, rfl⟩
  exact ((perform_turn call).of_ok start h).2 told htold

end Desk
end TenderDesk
