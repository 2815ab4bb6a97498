import TenderDesk.Proofs.Desk.Dispatch
import TenderDesk.Proofs.Desk.Fetching
import TenderDesk.Proofs.Desk.Recorded

/-!
# Confinement — a call about an event has to do with that event alone

* `Store.KeepsOthers`: two stores differ in the row of one number at most. Every turn of a call
  about an event keeps the rows of all others (`Turn.keepsOthers`).
* `Dispatch.addresses`: whatever carries the id of a record carries that of the event, as long as
  what the call takes for granted of its event holds (`Call.Presumes`).
* `Sent` and `Begun` follow a listing, which asks for the records of the events of a project one by
  one. A listing that fails has asked for the first few of them (`listing_interrupted`).
* `visit_confined` puts this together.
-/

namespace TenderDesk

namespace Store

/-! ## Rows of other events -/

/-- The rows that do not have a number. -/
def others (s : Store) (number : Nat) : List Row :=
  s.rows.filter fun row => row.id != number

/-- Nothing but the row of a number may differ. -/
structure KeepsOthers (number : Nat) (s s' : Store) : Prop where
  projects : s'.projects = s.projects
  links : s'.links = s.links
  numbers : s'.rows.map (·.id) = s.rows.map (·.id)
  others : s'.others number = s.others number

theorem KeepsOthers.refl (number : Nat) (s : Store) : s.KeepsOthers number s :=
  ⟨rfl, rfl, rfl, rfl⟩

theorem keepsOthers_replace (s : Store) {number : Nat} {row : Row} (hid : row.id = number) :
    s.KeepsOthers number (s.replace row) where
  projects := rfl
  links := rfl
  numbers := replace_ids
  others := by
    subst hid
    have hsame : ∀ r : Row,
        ((if r.id = row.id then row else r).id != row.id) = (r.id != row.id) := by
      intro r
      by_cases hr : r.id = row.id <;> simp [hr]
    unfold others replace
    rw [List.filter_map, Function.comp_def]
    simp only [hsame]
    -- The rows that are left are those that were not replaced.
    refine (List.map_congr_left fun r hr => ?_).trans (List.map_id _)
    exact if_neg (bne_iff_ne.1 (List.mem_filter.1 hr).2)

end Store

namespace Sourcing

/-- The id of the record that is sent, if one is. -/
def Rfx.id? (rfx : Rfx) : Option String :=
  rfx.head.get?.bind (·.id.get?)

/-- The id of the record that a request is about, if it carries one. -/
def Request.recordId? : Request → Option String
  | .write change | .upload _ _ change => change.rfx.id?
  | .publish order => some order.id
  | .showRecord id => some id
  | .showFile _ => none

theorem Rfx.id?_of_head {rfx : Rfx} {head : Head} {id : Option String} (h : rfx.head = .set head)
    (hid : head.id = .ofOption id) : rfx.id? = id := by
  show rfx.head.get?.bind (·.id.get?) = id
  rw [h]
  show head.id.get? = id
  rw [hid]
  exact Schema.Slot.get?_ofOption id

end Sourcing

namespace Desk

open Sourcing

variable {ω : Type} {w : Surroundings ω} {m : ω} {s : Settings} {saved saved' : Store}
  {call : Call} {project : Int} {event : String} {row : Row}

/-- A call about an event changes the row of no other. -/
theorem Turn.keepsOthers {ws : List Write} (h : Turn s saved call ws saved')
    (hplace : call.place? = some (project, event)) (hrow : Names s.naming saved project event row) :
    saved.KeepsOthers row.id saved' := by
  cases h with
  | still | unsaved | listed | delisted | uploaded | published => exact .refl row.id saved
  | opened => cases hplace
  | edited hbefore hrevised hbrought hedit =>
      cases hplace
      rw [hrow.unique hbefore]
      exact saved.keepsOthers_replace (hbrought.same.1.trans hrevised.id)
  | selected hnames hkeeper =>
      cases hplace
      rw [hrow.unique hnames, withSuppliers_eq]
      exact saved.keepsOthers_replace rfl
  | deselected hnames hkeeper hmem =>
      cases hplace
      rw [hrow.unique hnames]
      exact saved.keepsOthers_replace rfl

theorem visit_keepsOthers (s : Settings) (w : Surroundings ω) (m : ω)
    (hplace : call.place? = some (project, event)) (hrow : Names s.naming saved project event row) :
    saved.KeepsOthers row.id (call.visit s w saved m).2.session.saved := by
  rcases visit_turn s w call saved m with ⟨ws, turn, -⟩ | ⟨-, hsaved, -⟩
  · exact turn.keepsOthers hplace hrow
  · rw [hsaved]
    exact .refl row.id saved

/-! ## Ids of records -/

/-- What a call takes for granted about the record of its event. -/
def Call.Presumes (call : Call) (row : Row) : Prop :=
  match call with
  | .updateEvent _ _ edit _ => isEdit edit = false → row.Recorded
  | .listSuppliers _ _ | .deleteSupplier _ _ _ _ =>
      keeper row = .ok .platform → row.externalId.isSome
  | _ => True

/-- An id is that of the record of an event: the event has it, or it had none and has got this one
by now. -/
def Addresses (saved' : Store) (row : Row) (id : String) : Prop :=
  row.externalId = some id ∨
    row.record? = none ∧ ∃ row' ∈ saved'.rows, row'.id = row.id ∧ row'.externalId = some id

theorem addresses_record {record id : String} (hrecord : row.record? = some record)
    (hid : some record = some id) : Addresses saved' row id :=
  .inl ((Row.record?_eq_some_iff.1 hrecord).1.trans hid)

theorem externalId_of_presumes (h : call.Presumes row) (hcall : call.readsSuppliers)
    (hkeeper : keeper row = .ok .platform) : row.externalId = some (recordName row) := by
  have hsome : row.externalId.isSome := by
    cases call with
    | listSuppliers | deleteSupplier => exact h hkeeper
    | _ => cases hcall
  obtain ⟨record, hrecord⟩ := Option.isSome_iff_exists.1 hsome
  rw [recordName_eq hrecord]
  exact hrecord

theorem supplierChange_head (row : Row) (companies : List Int) :
    (supplierChange row companies).head = .set (Head.key row.externalId row.reference) :=
  rfl

/-- Whatever carries the id of a record, in a call about an event, carries that of the event. -/
theorem Dispatch.addresses {before : List Question} {request : Request}
    (h : Dispatch s w m saved saved' call before request)
    (hplace : call.place? = some (project, event)) (hrow : Names s.naming saved project event row)
    (hpresumed : call.Presumes row) {id : String} (hid : request.recordId? = some id) :
    Addresses saved' row id := by
  cases h with
  | opened | surveyed => cases hplace
  | shown hplace' hnames hrecord =>
      cases hplace.symm.trans hplace'
      obtain rfl := hrow.unique hnames
      exact addresses_record hrecord hid
  | listed hplace' hcall hnames hkeeper =>
      cases hplace.symm.trans hplace'
      obtain rfl := hrow.unique hnames
      exact .inl ((externalId_of_presumes hpresumed hcall hkeeper).trans hid)
  | recorded hnames hnone hrfx =>
      -- A record that is created has no id yet.
      obtain ⟨project, template, user, company, companies, rfl⟩ := hrfx
      cases hid
  | reshown hnames hnone hreceived hrecord hsaved =>
      cases hplace
      obtain rfl := hrow.unique hnames
      cases hid
      rcases hsaved with ⟨row', hmem, hnumber, hexternal⟩ | ⟨hno, kind, hkind, howner⟩
      · exact .inr ⟨hnone, row', hmem, hnumber, hexternal⟩
      · -- An event of the platform had its record, so none was created without an edit.
        have hsome : row.record?.isSome := hpresumed hno kind hkind howner
        rw [hnone] at hsome
        cases hsome
  | retitled hnames hrecord hname =>
      cases hplace
      obtain rfl := hrow.unique hnames
      exact .inl ((Rfx.id?_of_head (titleChange_head row _) rfl).symm.trans hid)
  | added hnames hkeeper hlinked =>
      cases hplace
      obtain rfl := hrow.unique hnames
      exact .inl ((Rfx.id?_of_head (supplierChange_head row _) rfl).symm.trans hid)
  | delisted hnames hkeeper hlink htold hshown =>
      cases hplace
      obtain rfl := hrow.unique hnames
      exact .inl ((Rfx.id?_of_head (supplierChange_head row _) rfl).symm.trans hid)
  | uploaded hnames hrecord =>
      cases hplace
      obtain rfl := hrow.unique hnames
      exact .inl ((Rfx.id?_of_head (attachmentChange_head row _ _ _) rfl).symm.trans hid)
  | fetched => cases hid
  | published hnames hrecord user =>
      cases hplace
      obtain rfl := hrow.unique hnames
      exact addresses_record hrecord hid

/-! ## Events that are not there -/

/-- What a call asks before it looks for its event. -/
def Call.preface : Call → List Question
  | .publishEvent _ _ _ principal => [.buyerUser principal]
  | _ => []

/-- After some questions the table was looked at, and that is all. -/
def Run.Sought (saved : Store) (front : List Question) (r : Run ω) : Prop :=
  r.session = .fresh saved ∧ ∃ waits, r.asked = front ++ waits ∧ ∀ q ∈ waits, q.IsLookup

theorem findEvent_missing {r : Run ω} (hr : r.session = .fresh saved)
    (hnone : ∀ row, ¬Names s.naming saved project event row) :
    ∃ failure r', findEvent s project event w r = (.error failure, r') ∧
      r'.Sought saved r.asked := by
  rw [findEvent_course hr]
  cases hfound : saved.event s.naming project event (w.wait s.attempts r.memory).answered with
  | ok row => exact absurd (Store.event_eq_ok_iff_names.1 hfound).1 (hnone row)
  | error failure =>
      refine ⟨failure, _, rfl, ?_⟩
      split
      · exact ⟨hr, _, rfl, w.wait_isLookup s.attempts r.memory⟩
      · exact ⟨hr, [], (List.append_nil _).symm, List.forall_mem_nil _⟩

/-- A call about an event that is not there looks for it in vain, and does nothing else. -/
theorem visit_missing (s : Settings) (w : Surroundings ω) (m : ω)
    (hplace : call.place? = some (project, event))
    (hnone : ∀ row, ¬Names s.naming saved project event row) :
    ∃ failure r', call.visit s w saved m = (.error failure, r') ∧
      r'.Sought saved call.preface := by
  cases call with
  | createEvent | listEvents => cases hplace
  | publishEvent project event dates principal =>
      cases hplace
      let asked : Run ω := (Run.start saved m).asking w (.buyerUser principal)
      show ∃ failure r', publishEvent s project event dates principal w (.start saved m) =
        (.error failure, r') ∧ _
      unfold publishEvent
      cases huser : userOf (w (.buyerUser principal) m).1 with
      | error failure =>
          have hfailed : findUser principal w (.start saved m) = (.error failure, asked) := by
            rw [findUser_course]
            exact congrArg (·, asked) huser
          refine ⟨failure, asked, Action.bind_of_error hfailed, rfl, [], rfl, List.forall_mem_nil _⟩
      | ok user =>
          have hfound : findUser principal w (.start saved m) = (.ok user, asked) := by
            rw [findUser_course]
            exact congrArg (·, asked) huser
          obtain ⟨failure, r', hfailed, hsought⟩ := findEvent_missing (r := asked) rfl hnone
          exact ⟨failure, r', (Action.bind_of_ok hfound).trans (Action.bind_of_error hfailed),
            hsought⟩
  | _ =>
      cases hplace
      obtain ⟨failure, r', hfailed, hsought⟩ := findEvent_missing (r := .start saved m) rfl hnone
      exact ⟨failure, r', Action.bind_of_error hfailed, hsought⟩

/-! ## Listings -/

/-- The requests that show the records of events, those that have one. -/
def showsOf (rows : List Row) : List Request :=
  (rows.filterMap Row.record?).map .showRecord

/-- The requests that were sent. -/
def Sent (requests : List Request) : Trail ω :=
  fun _ asked => requestsOf asked = requests

/-- The requests that were sent are the first few of some. -/
def Begun (requests : List Request) : Trail ω :=
  fun _ asked => requestsOf asked <+: requests

theorem sent_keeps (front : List Request) :
    w.Keeps (fun q => q.request? = none) (Sent front) := by
  intro q hq m asked h
  have hnone : requestsOf [q] = [] := List.filterMap_eq_nil_iff.2 (by simpa using hq)
  unfold Sent
  rw [requestsOf_append, hnone, List.append_nil]
  exact h

theorem fetchRecord_sends {σ : Session} {p : Platform} {front : List Request} (id : String) :
    Triple w (Run.At σ (Sent front)) (fetchRecord p id)
      (fun _ => Run.At σ (Sent (front ++ [.showRecord id])))
      (fun _ => Run.At σ (Begun (front ++ [.showRecord id]))) := by
  rintro r ⟨hsession, hfront⟩
  have hfront : requestsOf r.asked = front := hfront
  have hsent : requestsOf (r.asking w (.exchange (.showRecord id))).asked =
      front ++ [.showRecord id] := by
    rw [requestsOf_asking, hfront]
    rfl
  rw [fetchRecord_course]
  cases urlOf p (Request.showRecord id).endpoint with
  | error failure =>
      -- A request whose address is not known is not sent.
      have hbegun : requestsOf r.asked <+: front ++ [.showRecord id] :=
        hfront ▸ List.prefix_append front _
      exact ⟨hsession, hbegun⟩
  | ok url =>
      dsimp only
      cases Snapshot.ofReply id (w (.exchange (.showRecord id)) r.memory).1 with
      | error failure => exact ⟨hsession, hsent ▸ List.prefix_rfl⟩
      | ok snapshot => exact ⟨hsession, hsent⟩

theorem Begun.append {front rest : List Request} {m : ω} {asked : List Question}
    (h : Begun front m asked) : Begun (front ++ rest) m asked :=
  List.IsPrefix.trans h (List.prefix_append front rest)

theorem Sent.begun {requests : List Request} {m : ω} {asked : List Question}
    (h : Sent requests m asked) : Begun requests m asked := by
  have hsent : requestsOf asked = requests := h
  exact hsent ▸ List.prefix_rfl

/-- The status of an event is told by its record, where it has one. -/
theorem statusOf_sends {σ : Session} (s : Settings) (row : Row) (principal : String)
    {front : List Request} :
    Triple w (Run.At σ (Sent front)) (statusOf s row principal)
      (fun _ => Run.At σ (Sent (front ++ showsOf [row])))
      (fun _ => Run.At σ (Begun (front ++ showsOf [row]))) := by
  unfold statusOf showsOf
  cases hrecord : row.record? with
  | some record =>
      have hshown : ([row].filterMap Row.record?).map Request.showRecord =
          [.showRecord record] := by
        simp [hrecord]
      rw [hshown]
      dsimp only
      refine Triple.bind (fetchRecord_sends record) fun snapshot => ?_
      rw [ofPlatform_eq]
      apply Triple.bind (Triple.ofExcept_keeping.mono_fail fun _ _ h => ⟨h.1, h.2.begun⟩)
      intro status
      exact Triple.pure fun r h => h
  | none =>
      have hshown : ([row].filterMap Row.record?).map Request.showRecord = [] := by simp [hrecord]
      rw [hshown, List.append_nil]
      -- Nothing is sent for an event without a record.
      refine Triple.mono_fail (E := fun _ => Run.At σ (Sent front)) ?_
        fun _ _ h => ⟨h.1, h.2.begun⟩
      dsimp only
      split
      · refine Triple.bind (Triple.ask_keeping (sent_keeps front) rfl) fun answer => ?_
        apply Triple.bind Triple.ofExcept_keeping
        intro report
        rw [ofPlatform_eq]
        apply Triple.bind Triple.ofExcept_keeping
        intro status
        exact Triple.pure fun r h => h
      · exact Triple.pure fun r h => h

theorem showsOf_cons (row : Row) (rows : List Row) :
    showsOf (row :: rows) = showsOf [row] ++ showsOf rows := by
  unfold showsOf
  rw [← List.map_append, ← List.filterMap_append]
  rfl

/-- The records of events are looked at one after the other, until one cannot be shown. -/
theorem summaries_sends {σ : Session} (s : Settings) (principal : String) (rows : List Row)
    {front : List Request} :
    Triple w (Run.At σ (Sent front)) (summaries s principal rows)
      (fun _ => Run.At σ (Sent (front ++ showsOf rows)))
      (fun _ => Run.At σ (Begun (front ++ showsOf rows))) := by
  induction rows generalizing front with
  | nil =>
      have hnone : front ++ showsOf [] = front := List.append_nil front
      rw [hnone]
      exact Triple.pure fun r h => h
  | cons row rows ih =>
      rw [showsOf_cons, ← List.append_assoc]
      apply Triple.bind ((statusOf_sends s row principal).mono_fail
        fun _ _ h => ⟨h.1, h.2.append⟩)
      intro status
      apply Triple.bind (Triple.ofExcept_keeping.mono_fail
        fun _ _ h => ⟨h.1, h.2.begun.append⟩)
      intro first
      apply Triple.bind ih
      intro rest
      exact Triple.pure fun r h => h

theorem listEvents_sends (s : Settings) (project : Int) (principal : String) :
    Triple w (Run.At (.fresh saved) (Sent [])) (listEvents s project principal)
      (fun _ => Run.At (.fresh saved) (Sent (showsOf (saved.rowsOf project))))
      (fun _ => Run.At (.fresh saved) (Begun (showsOf (saved.rowsOf project)))) := by
  have hl : w.Keeps Question.IsLookup (Sent []) := (sent_keeps []).mono fun q hq => by
    cases q <;> first | rfl | exact absurd hq id
  have early : ∀ r : Run ω, r.Near (.fresh saved) (Sent []) →
      r.At (.fresh saved) (Begun (showsOf (saved.rowsOf project))) := fun r h =>
    ⟨h.at_fresh.1, h.2.begun.append⟩
  unfold listEvents
  apply Triple.bind ((findProject_triple hl s project).mono_fail fun _ => early)
  intro p
  apply Triple.of_fact
  intro _
  apply Triple.bind ((findEvents_triple hl s project).mono_fail fun _ => early)
  intro rows
  apply Triple.of_fact
  rintro rfl
  exact summaries_sends s principal _

theorem visit_lists (s : Settings) (w : Surroundings ω) (saved : Store) (m : ω) (project : Int)
    (principal : String) :
    let listed := (Call.listEvents project principal).visit s w saved m
    listed.2.session = .fresh saved ∧ requestsOf listed.2.asked <+: showsOf (saved.rowsOf project) ∧
      ∀ told, listed.1 = .ok told → requestsOf listed.2.asked = showsOf (saved.rowsOf project) := by
  intro listed
  have start : (Run.start saved m).At (.fresh saved) (Sent []) := ⟨rfl, rfl⟩
  rcases h : listed with ⟨failure | told, r⟩
  · obtain ⟨hsession, hbegun⟩ := (listEvents_sends s project principal).of_error start h
    exact ⟨hsession, hbegun, fun told htold => by cases htold⟩
  · obtain ⟨hsession, hsent⟩ := (listEvents_sends s project principal).of_ok start h
    exact ⟨hsession, hsent.begun, fun _ _ => hsent⟩

/-! ## Calls -/

/-- What a call about an event may do, and all that listing the events of a project does. -/
structure Confined (s : Settings) (saved : Store) (call : Call)
    (result : Except Failure call.Result) (r : Run ω) : Prop where
  -- An event that is not there is looked for, and nothing else is asked but who the user is.
  missing : ∀ project event, call.place? = some (project, event) →
    (∀ row, ¬Names s.naming saved project event row) →
      (∃ failure, result = .error failure) ∧ r.Sought saved call.preface
  kept : ∀ project event row, call.place? = some (project, event) →
    Names s.naming saved project event row → saved.KeepsOthers row.id r.session.saved
  addressed : ∀ project event row, call.place? = some (project, event) →
    Names s.naming saved project event row → call.Presumes row →
      ∀ request ∈ requestsOf r.asked, ∀ id, request.recordId? = some id →
        Addresses r.session.saved row id
  listed : ∀ project principal, call = .listEvents project principal →
    r.session = .fresh saved ∧ requestsOf r.asked <+: showsOf (saved.rowsOf project) ∧
      ∀ told, result = .ok told → requestsOf r.asked = showsOf (saved.rowsOf project)

theorem visit_confined (s : Settings) (w : Surroundings ω) (call : Call) (saved : Store) (m : ω) :
    Confined s saved call (call.visit s w saved m).1 (call.visit s w saved m).2 where
  missing := by
    intro project event hplace hnone
    obtain ⟨failure, r', hvisit, hsought⟩ := visit_missing s w m hplace hnone
    rw [hvisit]
    exact ⟨⟨failure, rfl⟩, hsought⟩
  kept := fun project event row hplace hrow => visit_keepsOthers s w m hplace hrow
  addressed := by
    intro project event row hplace hrow hpresumed request hrequest id hid
    obtain ⟨before, after, hasked, hdispatch⟩ := visit_dispatches s w call saved m hrequest
    exact hdispatch.addresses hplace hrow hpresumed hid
  listed := by
    rintro project principal rfl
    exact visit_lists s w saved m project principal

/-- An event gets its record, which cannot be shown then: the new id is saved and was asked for, and
the other event is as it was. A third event is not there. -/
theorem visit_confined_bench :
    let row : Row := {
      id := 1, project := 1, name := "Pens", kind := "TBD", naming := benchSettings.naming,
      createdBy := "", updatedBy := "" }
    let saved : Store := { projects := [benchProject], rows := row :: twoRows.tail }
    let updated := (Call.updateEvent 1 "ocds-b5fd17-1" { kind := some .rfi } "buyer").visit
      benchSettings bench saved []
    let published := (Call.publishEvent 1 "ocds-b5fd17-3" default "buyer").visit benchSettings
      bench saved []
    (∃ request ∈ requestsOf updated.2.asked, request.recordId? = some "rfq_1") ∧
      Addresses updated.2.session.saved row "rfq_1" ∧
      saved.KeepsOthers 1 updated.2.session.saved ∧
      published.2.Sought saved [.buyerUser "buyer"] := by
  intro row saved updated published
  have hrow : Names benchSettings.naming saved 1 "ocds-b5fd17-1" row :=
    ⟨1, by decide +kernel, by decide +kernel⟩
  have hnone : ∀ row, ¬Names benchSettings.naming saved 1 "ocds-b5fd17-3" row := by
    rintro row ⟨number, hnumber, hfound⟩
    have hthree : eventNumber benchSettings.naming "ocds-b5fd17-3" = .ok 3 := by decide +kernel
    cases hthree.symm.trans hnumber
    cases hfound
  have hsent : Request.showRecord "rfq_1" ∈ requestsOf updated.2.asked := by decide +kernel
  have hupdated := visit_confined benchSettings bench
    (.updateEvent 1 "ocds-b5fd17-1" { kind := some .rfi } "buyer") saved []
  have hpublished := visit_confined benchSettings bench
    (.publishEvent 1 "ocds-b5fd17-3" default "buyer") saved []
  refine ⟨⟨_, hsent, rfl⟩, ?_, hupdated.kept _ _ row rfl hrow, (hpublished.missing _ _ rfl hnone).2⟩
  exact hupdated.addressed _ _ row rfl hrow (fun hno => by cases hno) _ hsent _ rfl

/-- A request for information that has no record. -/
def unrecordedRow : Row where
  id := 1
  project := 1
  name := "Pens"
  kind := "RFI"
  naming := benchSettings.naming
  createdBy := ""
  updatedBy := ""

/-- Where confinement ends. A listing whose first record cannot be shown does not ask for the second
one; suppliers are asked for of an event without a record; and a record that is created when there
is no edit to save is asked for, but the event does not have it afterwards. -/
theorem listing_interrupted :
    let listed := (Call.listEvents 1 "buyer").visit benchSettings bench
      { projects := [benchProject], rows := twoRows } []
    let saved : Store := { projects := [benchProject], rows := [unrecordedRow] }
    let shown := (Call.listSuppliers 1 "ocds-b5fd17-1").visit benchSettings bench saved []
    let updated := (Call.updateEvent 1 "ocds-b5fd17-1" {} "buyer").visit benchSettings bench saved
      []
    requestsOf listed.2.asked = [.showRecord "rfq_1"] ∧
      twoRows.filterMap Row.record? = ["rfq_1", "rfq_2"] ∧
      requestsOf shown.2.asked = [.showRecord "None"] ∧
      .showRecord "rfq_1" ∈ requestsOf updated.2.asked ∧ updated.2.session.saved = saved := by
  decide +kernel

end Desk
end TenderDesk
