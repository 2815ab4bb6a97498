import TenderDesk.Proofs.Desk.Creating
import TenderDesk.Proofs.Desk.Showing

/-!
# Dispatch — every request that a call may send

`Turn` says what comes of a call. Here is what it sends on the way, whether it succeeds or not:
`Dispatch s w m saved saved' call before request` says that a call that turns the store `saved` into
`saved'` may send the request after it asked the questions `before`, and which facts stand behind
the request.

* `Warranted` says of questions in a row that every request among them was in order when it was
  sent, `Heeds` is the trail that keeps to it.
* Each operation heeds the requests of its call (`perform_heeds`), so what a visit sends is
  warranted (`visit_warranted`), and for each request that it sends there is a reason
  (`visit_dispatches`).
-/

namespace TenderDesk
namespace Desk

open Sourcing Document

/-- The project and the event id that a call gives. -/
def Call.place? : Call → Option (Int × String)
  | .createEvent _ _ _ _ | .listEvents _ _ => none
  | .updateEvent project event _ _ | .getEvent project event _
  | .publishEvent project event _ _ | .listSuppliers project event
  | .addSuppliers project event _ _ _ | .deleteSupplier project event _ _
  | .listDocuments project event | .uploadDocument project event _
  | .getDocument project event _ => some (project, event)

/-- The calls that look up which suppliers the record of their event lists. -/
def Call.readsSuppliers : Call → Bool
  | .listSuppliers _ _ | .deleteSupplier _ _ _ _ => true
  | _ => false

variable {ω : Type} {w : Surroundings ω} {m : ω} {s : Settings} {saved : Store} {σ : Session}
  {I : Trail ω}

/-- The platform was asked for a change, and made it. -/
def Received (w : Surroundings ω) (m : ω) (asked : List Question) (request : Request)
    (receipt : Receipt) : Prop :=
  ∃ reply, w.Tells m asked (.exchange request) reply ∧ reply.receipt? = some receipt

/-- A call that turns the store `saved` into `saved'` may send a request after some questions. -/
inductive Dispatch (s : Settings) (w : Surroundings ω) (m : ω) (saved saved' : Store) :
    Call → List Question → Request → Prop
  -- A new event gets a record.
  | opened {project : Int} {request : NewEvent} {downSelected : Bool} {principal : String}
      {before : List Question} {name : String} {rfx : Rfx} (hrfx : IsRecordFor name rfx) :
      Dispatch s w m saved saved' (.createEvent project request downSelected principal) before
        (creation rfx)
  -- The records of all events of a project are looked at.
  | surveyed {project : Int} {principal : String} {before : List Question} {row : Row}
      {record : String} (hrow : row ∈ saved.rowsOf project)
      (hrecord : row.record? = some record) :
      Dispatch s w m saved saved' (.listEvents project principal) before (.showRecord record)
  -- The record of the event is looked at.
  | shown {call : Call} {project : Int} {event : String} {before : List Question} {row : Row}
      {record : String} (hplace : call.place? = some (project, event))
      (hrow : Names s.naming saved project event row) (hrecord : row.record? = some record) :
      Dispatch s w m saved saved' call before (.showRecord record)
  | listed {call : Call} {project : Int} {event : String} {before : List Question} {row : Row}
      (hplace : call.place? = some (project, event)) (hcall : call.readsSuppliers)
      (hrow : Names s.naming saved project event row) (hkeeper : keeper row = .ok .platform) :
      Dispatch s w m saved saved' call before (.showRecord (recordName row))
  -- An event that changed its kind gets a record, which is looked at afterwards.
  | recorded {project : Int} {event : String} {edit : EventEdit} {principal : String}
      {before : List Question} {row : Row} (hrow : Names s.naming saved project event row)
      (hnone : row.record? = none) {rfx : Rfx}
      (hrfx : IsRecordFor ((newName edit).getD row.name) rfx) :
      Dispatch s w m saved saved' (.updateEvent project event edit principal) before (creation rfx)
  | reshown {project : Int} {event : String} {edit : EventEdit} {principal : String}
      {before : List Question} {row : Row} (hrow : Names s.naming saved project event row)
      (hnone : row.record? = none) {rfx : Rfx} {receipt : Receipt}
      (hreceived : Received w m before (creation rfx) receipt) {record : String}
      (hrecord : receipt.id.get? = some record)
      (hsaved : (∃ row' ∈ saved'.rows, row'.id = row.id ∧ row'.externalId = some record) ∨
        isEdit edit = false ∧ ∃ kind : EventKind, row.kind = kind.name ∧ kind.owner = .platform) :
      Dispatch s w m saved saved' (.updateEvent project event edit principal) before
        (.showRecord record)
  -- The record of the event gets a new title.
  | retitled {project : Int} {event : String} {edit : EventEdit} {principal : String}
      {before : List Question} {row : Row} (hrow : Names s.naming saved project event row)
      {record name : String} (hrecord : row.record? = some record)
      (hname : newName edit = some name) :
      Dispatch s w m saved saved' (.updateEvent project event edit principal) before
        (.write ⟨.createUpdate, titleChange row name⟩)
  -- The suppliers of the event are added to, or listed again without one of them.
  | added {project : Int} {event : String} {refs : List SupplierRef} {overwrite : Bool}
      {principal : String} {before : List Question} {row : Row}
      (hrow : Names s.naming saved project event row) (hkeeper : keeper row = .ok .platform)
      (hlinked : Linked saved (refs.map (·.id))) :
      Dispatch s w m saved saved' (.addSuppliers project event refs overwrite principal) before
        (addition saved row refs overwrite)
  | delisted {project : Int} {event organisation principal : String} {before : List Question}
      {row : Row} (hrow : Names s.naming saved project event row)
      (hkeeper : keeper row = .ok .platform) {link : Link}
      (hlink : saved.linkOf? organisation = some link) {reply : Reply} {snapshot : Snapshot}
      (htold : w.Tells m before (.exchange (.showRecord (recordName row))) reply)
      (hshown : Snapshot.ofReply (recordName row) reply = .ok snapshot) :
      Dispatch s w m saved saved' (.deleteSupplier project event organisation principal) before
        (removal row snapshot link)
  -- A document goes to the record of the event, or comes from the platform.
  | uploaded {project : Int} {event : String} {upload : Upload} {before : List Question}
      {row : Row} (hrow : Names s.naming saved project event row) {record : String}
      (hrecord : row.record? = some record) :
      Dispatch s w m saved saved' (.uploadDocument project event upload) before
        (attaching row upload)
  | fetched {project : Int} {event document : String} {before : List Question} {row : Row}
      (hrow : Names s.naming saved project event row) {record : String}
      (hrecord : row.record? = some record) {key : Key} (hkey : Key.ofId document = .ok key) :
      Dispatch s w m saved saved' (.getDocument project event document) before (.showFile key)
  -- The record of the event is published.
  | published {project : Int} {event : String} {dates : Publication} {principal : String}
      {before : List Question} {row : Row} (hrow : Names s.naming saved project event row)
      {record : String} (hrecord : row.record? = some record) (user : String) :
      Dispatch s w m saved saved' (.publishEvent project event dates principal) before
        (.publish (publishOrder record row.reference dates user))

/-! ## Trails -/

/-- Every request was in order when it was sent. -/
def Warranted (D : List Question → Request → Prop) (asked : List Question) : Prop :=
  ∀ before request after, asked = before ++ .exchange request :: after → D before request

/-- The questions since `m` are those that were asked, all requests are warranted, and something is
known of the questions besides. -/
def Heeds (w : Surroundings ω) (m : ω) (D : List Question → Request → Prop)
    (K : List Question → Prop) : Trail ω :=
  fun m' asked => m' = w.after m asked ∧ Warranted D asked ∧ K asked

/-- What is known of questions stays known when another is asked. -/
def Lasting (K : List Question → Prop) : Prop :=
  ∀ asked q, K asked → K (asked ++ [q])

section

variable {D : List Question → Request → Prop} {K : List Question → Prop}

theorem warranted_nil : Warranted D [] := by
  intro before request after h
  simp at h

theorem Warranted.concat {asked : List Question} {q : Question} (h : Warranted D asked)
    (hq : ∀ request, q = .exchange request → D asked request) : Warranted D (asked ++ [q]) := by
  intro before request after heq
  rcases concat_eq_append_cons heq with ⟨rfl, hlast⟩ | ⟨rest, rfl⟩
  · exact hq request hlast
  · exact h before request rest rfl

theorem lasting_true : Lasting fun _ => True :=
  fun _ _ _ => trivial

theorem tells_lasting {q : Question} {answer : q.Answer} :
    Lasting fun asked => w.Tells m asked q answer :=
  fun _ _ h => Surroundings.tells_concat.2 (.inl h)

theorem received_lasting (ws : List Write) :
    Lasting fun asked => ∀ write ∈ ws, Received w m asked write.1 write.2 := by
  intro asked q h write hwrite
  obtain ⟨reply, htold, hreceipt⟩ := h write hwrite
  exact ⟨reply, tells_lasting asked q htold, hreceipt⟩

/-- A request that is always in order may be sent at any time, and so may every other question. -/
theorem heeds_keeps (hK : Lasting K) :
    w.Keeps (Question.Asks fun request => ∀ before, K before → D before request)
      (Heeds w m D K) := by
  rintro q hq _ asked ⟨rfl, hwarranted, hknown⟩
  refine ⟨by simp, hwarranted.concat ?_, hK asked q hknown⟩
  rintro request rfl
  exact hq asked hknown

theorem heeds_lookups (hK : Lasting K) : w.Keeps Question.IsLookup (Heeds w m D K) :=
  (heeds_keeps hK).mono fun _ => Question.asks_of_isLookup

theorem heeds_services (hK : Lasting K) : w.Keeps Question.IsService (Heeds w m D K) :=
  (heeds_keeps hK).mono fun _ => Question.asks_of_isService

theorem heeds_commits (hK : Lasting K) : w.Keeps (· = .commit) (Heeds w m D K) :=
  (heeds_keeps hK).mono fun _ hq => hq ▸ trivial

/-- The request to make a change is in order, and the receipt of the change is known afterwards. -/
theorem heeds_sends {request : Request} (hD : ∀ before, D before request) :
    Sends w request
      (Heeds w m D fun asked => ∀ write ∈ ([] : List Write), Received w m asked write.1 write.2)
      fun receipt => Heeds w m D fun asked =>
        ∀ write ∈ [(request, receipt)], Received w m asked write.1 write.2 where
  accepted := by
    rintro _ asked receipt ⟨rfl, hwarranted, -⟩ hreceipt
    refine ⟨by simp, hwarranted.concat fun _ heq => ?_, fun write hwrite => ?_⟩
    · cases heq
      exact hD asked
    · rw [List.mem_singleton.1 hwrite]
      exact ⟨_, Surroundings.tells_concat.2 (.inr ⟨rfl, rfl⟩), hreceipt⟩
  refused := by
    rintro _ asked ⟨rfl, hwarranted, hknown⟩ -
    refine ⟨by simp, hwarranted.concat fun _ heq => ?_, fun _ hwrite => ?_⟩
    · cases heq
      exact hD asked
    · exact absurd hwrite List.not_mem_nil

/-- A reply of the platform showed a record. -/
def ShownIn (w : Surroundings ω) (m : ω) (id : String) (snapshot : Snapshot)
    (asked : List Question) : Prop :=
  ∃ reply, w.Tells m asked (.exchange (.showRecord id)) reply ∧
    Snapshot.ofReply id reply = .ok snapshot

theorem shownIn_lasting (id : String) (snapshot : Snapshot) :
    Lasting (ShownIn w m id snapshot) := by
  rintro asked q ⟨reply, htold, hshown⟩
  exact ⟨reply, tells_lasting asked q htold, hshown⟩

theorem fetchRecord_heeds {p : Platform} {id : String} (hD : ∀ before, D before (.showRecord id)) :
    Triple w (Run.At σ (Heeds w m D fun _ => True)) (fetchRecord p id)
      (fun snapshot => Run.At σ (Heeds w m D (ShownIn w m id snapshot)))
      (fun _ => Run.At σ (Heeds w m D fun _ => True)) := by
  rintro r ⟨hsession, hmemory, hwarranted, -⟩
  rw [fetchRecord_course]
  cases urlOf p (Request.showRecord id).endpoint with
  | error failure => exact ⟨hsession, hmemory, hwarranted, trivial⟩
  | ok url =>
      let q : Question := .exchange (.showRecord id)
      have hafter : (w q r.memory).2 = w.after m (r.asked ++ [q]) := by simp [hmemory]
      have hsent : Warranted D (r.asked ++ [q]) := by
        refine hwarranted.concat fun request heq => ?_
        obtain rfl : Request.showRecord id = request := Question.exchange.inj heq
        exact hD r.asked
      have htold : w.Tells m (r.asked ++ [q]) q (w q r.memory).1 :=
        Surroundings.tells_concat.2 (.inr ⟨rfl, by rw [hmemory]⟩)
      dsimp only
      cases hshown : Snapshot.ofReply id (w q r.memory).1 with
      | error failure => exact ⟨hsession, hafter, hsent, trivial⟩
      | ok snapshot => exact ⟨hsession, hafter, hsent, _, htold, hshown⟩

end

/-- What a call may send, whatever store it leaves. -/
def Always (s : Settings) (w : Surroundings ω) (m : ω) (saved : Store) (call : Call)
    (before : List Question) (request : Request) : Prop :=
  ∀ saved', Dispatch s w m saved saved' call before request

/-- The requests that were sent are those that a call may send. -/
def Heeded (s : Settings) (w : Surroundings ω) (m : ω) (saved : Store) (call : Call)
    (r : Run ω) : Prop :=
  Warranted (Dispatch s w m saved r.session.saved call) r.asked

section

variable {call : Call} {K : List Question → Prop}

theorem heeded_of_always {r : Run ω} (h : Heeds w m (Always s w m saved call) K r.memory r.asked) :
    Heeded s w m saved call r :=
  fun before request after heq => h.2.1 before request after heq r.session.saved

theorem Triple.heeded {α : Type} {P : Run ω → Prop} {Q : α → Run ω → Prop} {x : Action ω α}
    {before : Store}
    (h : Triple w P x Q fun _ => Run.Kept before (Heeds w m (Always s w m saved call) K)) :
    Triple w P x Q fun _ => Heeded s w m saved call :=
  h.mono_fail fun _ _ hr => heeded_of_always hr.2

/-- An operation that asks only for what is in order heeds its requests. -/
theorem Triple.heeds {α : Type} {P : Run ω → Prop} {x : Action ω α}
    (h : Triple w P x (fun _ => Run.At σ (Heeds w m (Always s w m saved call) K))
      fun _ => Run.Near σ (Heeds w m (Always s w m saved call) K)) :
    Triple w P x (fun _ => Heeded s w m saved call) fun _ => Heeded s w m saved call :=
  h.kept.heeded.mono_post fun _ _ hr => heeded_of_always hr.2

end

/-! ## Events -/

/-- The trail of a call that heeds its requests. -/
abbrev Minds (s : Settings) (w : Surroundings ω) (m : ω) (saved : Store) (call : Call) : Trail ω :=
  Heeds w m (Always s w m saved call) fun _ => True

theorem minds_keeps (call : Call) :
    w.Keeps (Question.Asks fun request => ∀ before, Always s w m saved call before request)
      (Minds s w m saved call) :=
  (heeds_keeps lasting_true).mono fun q hq => by
    cases q <;> first | exact trivial | exact fun before _ => hq before

theorem minds_lookups (call : Call) : w.Keeps Question.IsLookup (Minds s w m saved call) :=
  heeds_lookups lasting_true

theorem minds_services (call : Call) : w.Keeps Question.IsService (Minds s w m saved call) :=
  heeds_services lasting_true

theorem minds_commits (call : Call) : w.Keeps (· = .commit) (Minds s w m saved call) :=
  heeds_commits lasting_true

theorem createEvent_heeds (project : Int) (request : NewEvent) (downSelected : Bool)
    (principal : String) :
    let call := Call.createEvent project request downSelected principal
    Triple w (Run.At (.fresh saved) (Minds s w m saved call)) (call.perform s)
      (fun _ => Heeded s w m saved call) (fun _ => Heeded s w m saved call) := by
  intro call
  have hcreate : ∀ name rfx, IsRecordFor name rfx →
      Sends w (creation rfx) (Minds s w m saved call) fun _ => Minds s w m saved call :=
    fun name rfx hrfx => Sends.of_keeps (minds_keeps call) fun _ _ => .opened hrfx
  refine (createEvent_triple (L := fun _ => Minds s w m saved call) (minds_lookups call)
    (minds_services call) (fun _ => minds_commits call) s project request downSelected hcreate
    principal).mono (fun _ h => h) ?_ ?_
  · rintro told r ⟨ws, row, -, h⟩
    exact heeded_of_always h.2
  · rintro failure r ⟨-, h | ⟨-, ws, h⟩⟩
    · exact heeded_of_always h
    · exact heeded_of_always h

/-- Only the platform changes the record of a row, and only where there was none. -/
theorem Brought.record?_cases {before row row' : Row} {edit : EventEdit} {ws : List Write}
    (h : Brought before edit row ws row') {record : String}
    (hrecord : row'.record? = some record) :
    row.record? = some record ∨ row.record? = none ∧ row'.externalId = some record ∧
      (∃ rfx receipt, ws = [(creation rfx, receipt)] ∧ receipt.id.get? = some record) ∧
      ∃ kind : EventKind, row.kind = kind.name ∧ kind.owner = .platform := by
  cases h with
  | recorded kind hkind howner hnone rfx receipt hrfx =>
      have hid : receipt.id.get? = some record := (Row.record?_eq_some_iff.1 hrecord).1
      exact .inr ⟨hnone, hid, ⟨rfx, receipt, rfl, hid⟩, kind, ofName_eq_ok_iff.1 hkind, howner⟩
  | retitled hsome name hname receipt => exact .inl hrecord
  | left kind hkind hnone hsome => exact .inl hrecord

theorem signed_same (row : Row) (edit : EventEdit) (principal : String) :
    (signed row edit principal).id = row.id ∧
      (signed row edit principal).externalId = row.externalId ∧
      (signed row edit principal).record? = row.record? := by
  unfold signed
  split <;> exact ⟨rfl, rfl, rfl⟩

/-- When an edit was saved, the record that the platform is asked for last is the one that the event
had, or one that was created for it, which the store has by then. -/
theorem Changed.shown {project : Int} {event : String} {edit : EventEdit} {principal : String}
    {ws : List Write} {row' : Row} (h : Changed s saved project event edit ws row')
    {record : String} (hrecord : (signed row' edit principal).record? = some record)
    {asked : List Question} (hreceived : ∀ write ∈ ws, Received w m asked write.1 write.2) :
    Dispatch s w m saved (savedSession saved row' edit principal).saved
      (.updateEvent project event edit principal) asked (.showRecord record) := by
  obtain ⟨hbefore, hrow, hbrought⟩ := h
  rename_i before row
  obtain ⟨hid, hexternal, hsame⟩ := signed_same row' edit principal
  rcases hbrought.record?_cases (hsame ▸ hrecord) with
    hold | ⟨hnone, hnew, ⟨rfx, receipt, rfl, hreceipt⟩, kind, hkind, howner⟩
  · exact .shown rfl hbefore (hrow.record?_eq ▸ hold)
  · refine .reshown hbefore (hrow.record?_eq ▸ hnone) (hreceived _ List.mem_cons_self) hreceipt ?_
    by_cases hedit : isEdit edit
    · -- The row of the event was saved with its new record.
      have hnumber : before.id = (signed row' edit principal).id :=
        (hid.trans (hbrought.same.1.trans hrow.id)).symm
      refine .inl ⟨signed row' edit principal, ?_, hnumber.symm, hexternal.trans hnew⟩
      unfold savedSession
      rw [if_pos hedit]
      exact Store.mem_replace_of_mem hbefore.mem hnumber
    · have hno : isEdit edit = false := Bool.eq_false_iff.2 hedit
      exact .inr ⟨hno, kind, (hrow.kind_of_no_edit hno).symm.trans hkind, howner⟩

theorem updateEvent_heeds (project : Int) (event : String) (edit : EventEdit)
    (principal : String) :
    let call := Call.updateEvent project event edit principal
    Triple w (Run.At (.fresh saved) (Minds s w m saved call)) (call.perform s)
      (fun _ => Heeded s w m saved call) (fun _ => Heeded s w m saved call) := by
  intro call
  -- The changes that were made are followed, so that the record of a new id may be looked at.
  let K : List Write → List Question → Prop := fun ws asked =>
    ∀ write ∈ ws, Received w m asked write.1 write.2
  let L : List Write → Trail ω := fun ws => Heeds w m (Always s w m saved call) (K ws)
  have start : ∀ r : Run ω, r.At (.fresh saved) (Minds s w m saved call) →
      r.At (.fresh saved) (L []) := fun r h =>
    ⟨h.1, h.2.1, h.2.2.1, fun _ hwrite => absurd hwrite List.not_mem_nil⟩
  refine Triple.mono (P := Run.At (.fresh saved) (L [])) ?_ start (fun _ _ h => h) fun _ _ h => h
  show Triple w _ (updateEvent s project event edit principal) _ _
  rw [updateEvent_eq]
  refine Triple.bind ((changeEvent_triple (L := L) (heeds_lookups (received_lasting []))
    (heeds_services (received_lasting [])) (fun ws => heeds_commits (received_lasting ws)) s
    ?_ ?_ principal).mono_fail ?_) fun last => ?_
  · exact fun before hbefore hnone rfx hrfx =>
      heeds_sends fun _ _ => .recorded hbefore hnone hrfx
  · exact fun before hbefore record name hrecord hname =>
      heeds_sends fun _ _ => .retitled hbefore hrecord hname
  · rintro failure r ⟨-, h | ⟨-, ws, h⟩⟩
    · exact heeded_of_always h
    · exact heeded_of_always h
  refine Triple.of_exists fun ws => Triple.of_exists fun row => Triple.of_fact ?_
  rintro ⟨hchanged, rfl⟩
  -- Nothing is saved any more, so the store is the one that the call leaves.
  let σ : Session := savedSession saved row edit principal
  let D : List Question → Request → Prop := Dispatch s w m saved σ.saved call
  have hshown : ∀ record, (signed row edit principal).record? = some record → ∀ asked, K ws asked →
      D asked (.showRecord record) :=
    fun record hrecord asked hreceived => hchanged.shown hrecord hreceived
  have heeded : ∀ r : Run ω, r.At σ (Heeds w m D (K ws)) → Heeded s w m saved call r :=
    fun r h => by
      unfold Heeded
      rw [h.1]
      exact h.2.2.1
  have saved' : ∀ r : Run ω, r.At σ (L ws) → r.At σ (Heeds w m D (K ws)) := fun r h =>
    ⟨h.1, h.2.1, fun before request after heq => h.2.2.1 before request after heq σ.saved, h.2.2.2⟩
  refine Triple.bind (R := fun _ => Heeded s w m saved call)
    ((statusOf_triple (heeds_keeps (received_lasting ws)) s hshown principal).mono saved'
      (fun _ => heeded) fun _ => heeded) fun status => ?_
  exact Triple.ofExcept_keeping

theorem publishEvent_heeds (project : Int) (event : String) (dates : Publication)
    (principal : String) :
    let call := Call.publishEvent project event dates principal
    Triple w (Run.At (.fresh saved) (Minds s w m saved call)) (call.perform s)
      (fun _ => Heeded s w m saved call) (fun _ => Heeded s w m saved call) := by
  intro call
  refine (publishEvent_triple (J := fun _ _ => Minds s w m saved call) (minds_keeps call) s
    (fun _ _ hrow hrecord _ _ => .shown rfl hrow hrecord) ?_ principal).kept.heeded.mono_post ?_
  · exact fun row record user hrow hrecord =>
      Sends.of_keeps (minds_keeps call) fun _ _ => .published hrow hrecord user
  · rintro _ r ⟨row, record, user, receipt, -, h⟩
    exact heeded_of_always h.2

/-! ## Suppliers -/

theorem addSuppliers_heeds (project : Int) (event : String) (refs : List SupplierRef)
    (overwrite : Bool) (principal : String) :
    let call := Call.addSuppliers project event refs overwrite principal
    Triple w (Run.At (.fresh saved) (Minds s w m saved call)) (call.perform s)
      (fun _ => Heeded s w m saved call) (fun _ => Heeded s w m saved call) := by
  intro call
  refine (addSuppliers_triple (J := fun _ _ => Minds s w m saved call) (minds_lookups call)
    (minds_commits call) s ?_ principal).heeded.mono_post ?_
  · exact fun row hrow hkeeper hlinked =>
      Sends.of_keeps (minds_keeps call) fun _ _ => .added hrow hkeeper hlinked
  · rintro _ r ⟨row, -, ⟨-, h⟩ | ⟨-, receipt, h⟩⟩
    · exact heeded_of_always h.2
    · exact heeded_of_always h.2

theorem deleteSupplier_heeds (project : Int) (event organisation principal : String) :
    let call := Call.deleteSupplier project event organisation principal
    Triple w (Run.At (.fresh saved) (Minds s w m saved call)) (call.perform s)
      (fun _ => Heeded s w m saved call) (fun _ => Heeded s w m saved call) := by
  intro call
  let D : List Question → Request → Prop := Always s w m saved call
  let K : Row → Snapshot → Trail ω := fun row snapshot =>
    Heeds w m D (ShownIn w m (recordName row) snapshot)
  have forget : ∀ row snapshot m' asked, K row snapshot m' asked →
      Minds s w m saved call m' asked := fun _ _ _ _ h => ⟨h.1, h.2.1, trivial⟩
  refine (deleteSupplier_triple (K := K) (J := fun _ _ => Minds s w m saved call)
    (minds_lookups call) (minds_commits call) s ?_ forget ?_ principal).heeded.mono_post ?_
  · exact fun row hrow hkeeper => fetchRecord_heeds fun _ _ => .listed rfl rfl hrow hkeeper
  · -- The list is sent without the supplier, as the record was just seen to have it.
    intro row link snapshot hrow hkeeper hlink
    have hsent : ∀ before, ShownIn w m (recordName row) snapshot before →
        D before (removal row snapshot link) := fun before ⟨reply, htold, hshown⟩ _ =>
      .delisted hrow hkeeper hlink htold hshown
    exact (Sends.of_keeps (heeds_keeps (shownIn_lasting (recordName row) snapshot))
      hsent).weaken (forget row snapshot)
  · rintro _ r ⟨row, -, ⟨-, h⟩ | ⟨-, snapshot, link, receipt, h⟩⟩
    · exact heeded_of_always h.2
    · exact heeded_of_always h.2

/-! ## Documents -/

theorem record?_of_documentRecord {row : Row} {record : String}
    (h : documentRecord row = .ok record) : row.record? = some record := by
  obtain ⟨kind, -, -, hrecord⟩ := documentRecord_eq_ok_iff.1 h
  exact hrecord

theorem uploadDocument_heeds (project : Int) (event : String) (upload : Upload) :
    let call := Call.uploadDocument project event upload
    Triple w (Run.At (.fresh saved) (Minds s w m saved call)) (call.perform s)
      (fun _ => Heeded s w m saved call) (fun _ => Heeded s w m saved call) := by
  intro call
  have attached : ∀ r : Run ω, Attached s project event upload
      (fun _ _ => Minds s w m saved call) (.fresh saved) r → Heeded s w m saved call r := by
    rintro r ⟨row, record, receipt, -, h⟩
    exact heeded_of_always h.2
  refine (uploadDocument_triple (minds_keeps call) (fun _ _ => minds_keeps call) s ?_ ?_).mono
    (fun _ h => h) (fun _ => attached) ?_
  · exact fun row record hrow hrecord _ _ => .shown rfl hrow (record?_of_documentRecord hrecord)
  · exact fun row record hrow hrecord => Sends.of_keeps (minds_keeps call)
      fun _ _ => .uploaded hrow (record?_of_documentRecord hrecord)
  · rintro failure r (h | h)
    · exact heeded_of_always h.2
    · exact attached r h

/-! ## Calls -/

theorem perform_heeds (call : Call) :
    Triple w (Run.At (.fresh saved) (Minds s w m saved call)) (call.perform s)
      (fun _ => Heeded s w m saved call) (fun _ => Heeded s w m saved call) := by
  have hI : w.Keeps _ (Minds s w m saved call) := minds_keeps call
  have hl : w.Keeps Question.IsLookup (Minds s w m saved call) := minds_lookups call
  have found := findEvent_triple (σ := .fresh saved) hl s
  cases call with
  | createEvent project request downSelected principal =>
      exact createEvent_heeds project request downSelected principal
  | updateEvent project event edit principal =>
      exact updateEvent_heeds project event edit principal
  | getEvent project event principal =>
      exact (getEvent_triple hI s (fun _ _ hrow hrecord _ _ => .shown rfl hrow hrecord)
        principal).heeds
  | listEvents project principal =>
      exact (listEvents_triple hI s (fun _ hrow _ hrecord _ _ => .surveyed hrow hrecord)
        principal).heeds
  | publishEvent project event dates principal =>
      exact publishEvent_heeds project event dates principal
  | listSuppliers project event =>
      apply Triple.bind (found project event).kept.heeded
      intro row
      refine Triple.of_fact fun hrow => ?_
      exact (suppliersOf_triple hI s fun hkeeper _ _ => .listed rfl rfl hrow hkeeper).heeds
  | addSuppliers project event refs overwrite principal =>
      exact addSuppliers_heeds project event refs overwrite principal
  | deleteSupplier project event organisation principal =>
      exact deleteSupplier_heeds project event organisation principal
  | listDocuments project event =>
      apply Triple.bind (found project event).kept.heeded
      intro row
      refine Triple.of_fact fun hrow => ?_
      exact (documentsOf_triple hI s fun _ h _ _ =>
        .shown rfl hrow (record?_of_documentRecord h)).near.heeds
  | uploadDocument project event upload => exact uploadDocument_heeds project event upload
  | getDocument project event document =>
      apply Triple.bind (found project event).kept.heeded
      intro row
      refine Triple.of_fact fun hrow => ?_
      exact (fileOf_triple hI s fun _ _ h hkey _ _ =>
        .fetched hrow (record?_of_documentRecord h) hkey).near.heeds

/-- Whatever a visit sends, it may send. -/
theorem visit_warranted (s : Settings) (w : Surroundings ω) (call : Call) (saved : Store) (m : ω) :
    Warranted (Dispatch s w m saved (call.visit s w saved m).2.session.saved call)
      (call.visit s w saved m).2.asked := by
  have start : (Run.start saved m).At (.fresh saved) (Minds s w m saved call) :=
    ⟨rfl, rfl, warranted_nil, trivial⟩
  rcases h : call.visit s w saved m with ⟨failure | result, r⟩
  · exact (perform_heeds call).of_error start h
  · exact (perform_heeds call).of_ok start h

theorem visit_dispatches (s : Settings) (w : Surroundings ω) (call : Call) (saved : Store) (m : ω)
    {request : Request} (h : request ∈ requestsOf (call.visit s w saved m).2.asked) :
    ∃ before after, (call.visit s w saved m).2.asked = before ++ .exchange request :: after ∧
      Dispatch s w m saved (call.visit s w saved m).2.session.saved call before request := by
  obtain ⟨before, after, hasked⟩ := List.append_of_mem (mem_requestsOf.1 h)
  exact ⟨before, after, hasked, visit_warranted s w call saved m before request after hasked⟩

end Desk
end TenderDesk
