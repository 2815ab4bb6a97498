import TenderDesk.Proofs.Desk.Commission
import TenderDesk.Proofs.Desk.Views

/-!
# Assigning — an event gets its kind at once or later

An event may be created with its kind, or without one and be assigned a kind after that. Both ways
open the same for it.

* `updateEvent_assigns` follows the assignment of a kind to an event that has none.
* `assigned_like_created` compares the two ways. They differ in one thing: a creation copies the
  organisations on the lot of the project to an event with an assessment, and an assignment does not
  (`assigned_without_suppliers`).
-/

namespace TenderDesk

/-- The rows of one event, whichever suppliers are selected for it. -/
structure Row.Alike (a b : Row) : Prop where
  id : a.id = b.id
  project : a.project = b.project
  name : a.name = b.name
  kind : a.kind = b.kind
  externalId : a.externalId = b.externalId
  reference : a.reference = b.reference
  assessment : a.assessment = b.assessment
  naming : a.naming = b.naming

namespace Row.Alike

theorem refl (a : Row) : a.Alike a :=
  ⟨rfl, rfl, rfl, rfl, rfl, rfl, rfl, rfl⟩

theorem publicId {a b : Row} (h : a.Alike b) : a.publicId = b.publicId := by
  unfold Row.publicId
  rw [h.id, h.naming]

end Row.Alike

namespace Desk

open Sourcing

variable {ω : Type} {w : Surroundings ω} {I : Trail ω} {saved : Store}

namespace Commission

variable {c : Commission ω}

section

variable (c saved)

/-- The row with the kind of the event, and with its assessment if it needs one. -/
def typed : Row :=
  { c.unassigned saved with
    kind := c.kind.name
    assessment := if c.kind.owner = .assessment then some c.assessment else none }

/-- The row of an event that was assigned its kind. -/
def assigned : Row :=
  if c.kind.owner = .platform then withReceipt (c.typed saved) c.receipt else c.typed saved

end

/-! ## Assigning -/

/-- A kind that is asked for alone is staged, and an assessment for it is opened if the row has
none. -/
theorem stageEdits_typed {row : Row} (typed : Row) {kind : EventKind} {principal : String}
    {Q : Row → Run ω → Prop} {E : Failure → Run ω → Prop} (hkind : kind ≠ .tbd)
    (htbd : row.kind = EventKind.tbd.name) (hnone : row.assessment = none)
    (htyped : typed = { row with kind := kind.name })
    (hrest : Triple w (Run.At ⟨saved, saved.replace typed, none⟩ I)
      (if kind.owner = .assessment then do
        let project ← projectOf typed
        let assessment ← openAssessment project kind principal
        let row := { typed with assessment := some assessment }
        stage row
        pure row
      else pure typed) Q E) :
    Triple w (Run.At (.fresh saved) I) (stageEdits row { kind := some kind } principal) Q E := by
  have hwith : withKind row (some kind) = .ok typed := by
    have hassign : EventKind.assign row.publicId (EventKind.stateOf (some row.kind)) kind =
        .ok kind := by
      rw [htbd]
      exact EventKind.assign_eq_ok_iff.2 ⟨hkind, rfl, rfl⟩
    unfold withKind
    rw [htyped]
    simp only [hassign]
  have hneeded : needsAssessment row { kind := some kind } = (kind.owner == .assessment) := by
    simp [needsAssessment, hnone]
  have hsame : renamed row { kind := some kind } = row := rfl
  have hname : EventKind.ofName typed.kind = .ok kind := by
    rw [htyped]
    exact EventKind.ofName_name kind
  have hstay : typed.id = row.id := by rw [htyped]
  unfold stageEdits
  apply Triple.bind (stage_triple row)
  intro _
  dsimp only
  rw [hsame, hwith, Action.ofExcept_ok, pure_bind]
  apply Triple.bind (restage_triple (a := row) (b := typed) hstay.symm)
  intro _
  show Triple w _ (pure typed.assessment >>= _) Q E
  rw [pure_bind]
  apply Triple.bind (restage_triple (a := typed) (b := typed) rfl)
  intro _
  rw [hneeded, hname, Action.ofExcept_ok]
  simp only [beq_iff_eq, pure_bind]
  exact hrest

/-! ## Assigning -/

theorem Granted.placed (h : c.Granted saved) (row : Row) (hfits : row.fits = true)
    (hid : row.id = saved.nextId) (hproject : row.project = c.project.id)
    (hnaming : row.naming = c.settings.naming) :
    Placed c.settings (saved.add row) c.project.id row.publicId row where
  names := by
    have hroom : row.id < 2 ^ 63 := hid ▸ h.room
    refine ⟨row.id, ?_, ?_⟩
    · rw [← hnaming]
      exact eventNumber_publicId hroom
    · rw [← hproject]
      exact Store.row?_add hid
  reads := by
    have hword : Schema.Codec.fitsWord c.project.id = true := by simpa using h.reads.2
    have hnumber : Schema.Codec.fitsWord row.id = true := fitsWord_of_lt (hid ▸ h.room)
    exact ⟨Store.fits_add h.reads.1 hfits, by simp [hword, hnumber]⟩

/-- What is known once the kind of an event was staged. -/
def Staged (c : Commission ω) (saved : Store) : Trail ω :=
  if c.kind.owner = .assessment then c.Done saved else c.Ready

theorem projectOf_granted (h : c.Granted saved) {σ : Session} {row : Row}
    (hprojects : σ.working.project? = saved.project?) (hrow : row.project = c.project.id)
    (I : Trail ω) :
    Triple c.surroundings (Run.At σ I) (projectOf row)
      (fun p r => p = c.project ∧ r.At σ I) Never := by
  unfold projectOf
  apply Triple.bind_known (a := σ.working) (R := Run.At σ I)
    (Triple.store fun r h => ⟨congrArg Session.working h.1, h⟩)
  rw [hprojects, hrow, h.known]
  exact Triple.pure fun r h => ⟨rfl, h⟩

theorem stageEdits_assigns (h : c.Granted saved) :
    Triple c.surroundings (Run.At (.fresh (saved.add (c.unassigned saved))) c.Ready)
      (stageEdits (c.unassigned saved) { kind := some c.kind } c.principal)
      (fun row r => row = c.typed saved ∧
        r.At ⟨saved.add (c.unassigned saved), saved.add (c.typed saved), none⟩ (c.Staged saved))
      Never := by
  let row : Row := { c.unassigned saved with kind := c.kind.name }
  refine stageEdits_typed row h.concrete rfl rfl rfl ?_
  rw [Store.replace_add (a := c.unassigned saved) (b := row) rfl rfl]
  unfold typed Staged
  split
  · rename_i howner
    apply Triple.bind_known (projectOf_granted h rfl rfl c.Ready)
    apply Triple.bind_known (openAssessment_granted h howner _)
    refine Triple.bind (stage_added_triple (a := row) rfl ?_) fun _ => ?_
    · rfl
    · exact Triple.pure fun r h => ⟨rfl, h⟩
  · exact Triple.pure fun r h => ⟨rfl, h⟩

theorem Granted.fits_typed (h : c.Granted saved) : (c.typed saved).fits = true := by
  unfold typed
  split
  · rename_i howner
    have hword := (h.assessed howner).word
    simp [Row.fits, unassigned, draft, Desk.draft, hword]
  · rfl

/-- The record of the event is created now, if it is one that has a record. -/
theorem updateRecord_assigns (h : c.Granted saved) :
    Triple c.surroundings
      (Run.At ⟨saved.add (c.unassigned saved), saved.add (c.typed saved), none⟩ (c.Staged saved))
      (updateRecord c.settings (c.unassigned saved) (c.typed saved) { kind := some c.kind }
        c.principal)
      (fun row r => row = c.assigned saved ∧
        r.At ⟨saved.add (c.unassigned saved), saved.add (c.assigned saved), none⟩ (c.Done saved))
      Never := by
  have hkind : EventKind.ofName (c.typed saved).kind = .ok c.kind := EventKind.ofName_name c.kind
  have hrecord : (c.typed saved).record? = none := rfl
  unfold updateRecord
  rw [hkind, Action.ofExcept_ok, pure_bind, hrecord]
  dsimp only
  unfold assigned
  split
  · rename_i howner
    have hstaged : c.Staged saved = c.Ready := by
      unfold Staged
      rw [howner]
      exact if_neg (by decide)
    rw [hstaged]
    have hfits := Store.fits_add h.reads.1 h.fits_typed
    apply Triple.bind_known
      (createRecord_granted h howner rfl hfits rfl rfl (projectOf_granted h rfl rfl c.Ready))
    refine Triple.bind (stage_added_triple (a := c.typed saved) rfl ?_) fun _ => ?_
    · rfl
    · exact Triple.pure fun r h => ⟨rfl, h⟩
  · rename_i howner
    -- Nothing is left to be opened.
    have hstaged : c.Staged saved = c.Done saved := by
      unfold Staged
      split
      · rfl
      · rename_i hnone
        cases hkind : c.kind.owner with
        | assessment => exact absurd hkind hnone
        | platform => exact absurd hkind howner
        | nobody => exact absurd (EventKind.owner_eq_nobody_iff.1 hkind) h.concrete
    rw [hstaged]
    exact Triple.pure fun r h => ⟨rfl, h⟩

theorem Granted.fits_assigned (h : c.Granted saved) : (c.assigned saved).fits = true := by
  unfold assigned
  split <;> exact h.fits_typed

theorem saveEdits_assigns (h : c.Granted saved) :
    Triple c.surroundings
      (Run.At ⟨saved.add (c.unassigned saved), saved.add (c.assigned saved), none⟩ (c.Done saved))
      (saveEdits (c.assigned saved) { kind := some c.kind } c.principal)
      (fun row r => row = c.assigned saved ∧
        r.At (.fresh (saved.add (c.assigned saved))) (c.Done saved)) Never := by
  have hid : (c.assigned saved).id = saved.nextId := by
    unfold assigned
    split <;> rfl
  -- The principal who assigns the kind is the one who created the event.
  have hsigned : { c.assigned saved with updatedBy := c.principal } = c.assigned saved := by
    unfold assigned
    split <;> rfl
  have hedit : isEdit { kind := some c.kind } = true := rfl
  unfold saveEdits
  rw [if_pos hedit]
  dsimp only
  rw [hsigned]
  apply Triple.bind (stage_added_triple hid rfl)
  intro _
  have hfits := Store.fits_add h.reads.1 h.fits_assigned
  apply Triple.bind (save_calm (h.rests.calm (c.changes saved)) hfits)
  intro _
  exact Triple.pure fun r h => ⟨rfl, h⟩

theorem assigned_of_platform (howner : c.kind.owner = .platform) :
    c.assigned saved = withReceipt (c.typed saved) c.receipt :=
  if_pos howner

theorem assigned_of_assessment (howner : c.kind.owner = .assessment) :
    c.assigned saved = { c.unassigned saved with
      kind := c.kind.name, assessment := some c.assessment } := by
  unfold assigned typed
  rw [howner, if_pos rfl]
  exact if_neg (by decide)

/-- What was opened for the event has a status, which is told whenever it is asked for. -/
theorem statusOf_assigned (h : c.Granted saved) (σ : Session) :
    Triple c.surroundings (Run.At σ (c.Done saved))
      (statusOf c.settings (c.assigned saved) c.principal) (fun _ => Run.At σ (c.Done saved))
      Never := by
  intro r hr
  cases howner : c.kind.owner with
  | platform =>
      have hs := h.sourced howner
      cases hrecord : (c.assigned saved).record? with
      | some record =>
          rw [statusOf_of_record hrecord]
          have hname : c.recordKey = record := by
            rw [assigned_of_platform howner] at hrecord
            have hid := (Row.record?_eq_some_iff.1 hrecord).1
            unfold recordKey
            rw [show c.receipt.id.get? = some record from hid]
            rfl
          obtain ⟨url, hurl⟩ := hs.exports
          obtain ⟨snapshot, status, hshown, -, hstatus⟩ := hs.shows r.memory hr.2.1
          rw [hname] at hshown
          rw [hurl, hshown]
          simp only [Except.bind, hstatus, Except.mapError, Except.map]
          exact ⟨hr.1, h.rests.keeps _ (.exchange (.showRecord record)) rfl _ _ hr.2⟩
      | none =>
          have hnone : (c.assigned saved).assessment = none := by
            rw [assigned_of_platform howner]
            exact if_neg (by rw [howner]; decide)
          unfold statusOf
          rw [hrecord]
          dsimp only
          rw [hnone]
          exact hr
  | assessment =>
      have hrecord : (c.assigned saved).record? = none := by
        rw [assigned_of_assessment howner]
        rfl
      have hsome : (c.assigned saved).assessment = some c.assessment := by
        rw [assigned_of_assessment howner]
      rw [statusOf_of_assessment hrecord hsome]
      obtain ⟨report, status, htold, hstatus⟩ := (h.assessed howner).tells r.memory hr.2.1
      rw [htold]
      simp only [Except.bind, hstatus, Except.mapError, Except.map]
      exact ⟨hr.1, h.rests.keeps _ (.assessment c.assessment c.principal) trivial _ _ hr.2⟩
  | nobody => exact absurd (EventKind.owner_eq_nobody_iff.1 howner) h.concrete

theorem assigned_kind : (c.assigned saved).kind = c.kind.name := by
  unfold assigned
  split <;> rfl

/-- An event that has no kind yet is assigned one, and what it needs is opened then. -/
theorem updateEvent_assigns (h : c.Granted saved) :
    Triple c.surroundings (Run.At (.fresh (saved.add (c.unassigned saved))) c.Ready)
      (updateEvent c.settings c.project.id (c.unassigned saved).publicId { kind := some c.kind }
        c.principal)
      (fun told r => (∃ status, summary (c.assigned saved) status = .ok told) ∧
        r.At (.fresh (saved.add (c.assigned saved))) (c.Done saved)) Never := by
  have hplaced := h.placed (c.unassigned saved) rfl rfl rfl rfl
  unfold updateEvent
  apply Triple.bind_known (findEvent_calm (h.waits.calm []) hplaced.names hplaced.reads)
  apply Triple.bind_known (stageEdits_assigns h)
  apply Triple.bind_known (Triple.onFailure (updateRecord_assigns h) fun _ _ hnever => hnever)
  apply Triple.bind_known (saveEdits_assigns h)
  refine Triple.bind (statusOf_assigned h _) fun status => ?_
  dsimp only
  rw [summary_of_kind assigned_kind, Action.ofExcept_ok]
  exact Triple.pure fun r hr => ⟨⟨status.1, summary_of_kind assigned_kind status.1⟩, hr⟩

/-! ## Rows -/

theorem created_of_platform (howner : c.kind.owner = .platform) :
    c.created saved = withReceipt { c.draft c.kind with id := saved.nextId } c.receipt := by
  unfold created equipped
  rw [howner]
  rfl

theorem created_of_assessment (howner : c.kind.owner = .assessment) :
    c.created saved = { c.draft c.kind with
      id := saved.nextId
      assessment := some c.assessment
      selections := (c.created saved).selections } := by
  unfold created equipped
  rw [howner]
  dsimp only
  rw [withSuppliers_eq]
  rfl

theorem alike (h : c.Granted saved) : (c.created saved).Alike (c.assigned saved) := by
  cases howner : c.kind.owner with
  | assessment =>
      rw [created_of_assessment howner, assigned_of_assessment howner]
      exact ⟨rfl, rfl, rfl, rfl, rfl, rfl, rfl, rfl⟩
  | platform =>
      have hnone : (c.typed saved).assessment = none := if_neg (by rw [howner]; decide)
      rw [created_of_platform howner, assigned_of_platform howner]
      exact ⟨rfl, rfl, rfl, rfl, rfl, rfl, hnone.symm, rfl⟩
  | nobody => exact absurd (EventKind.owner_eq_nobody_iff.1 howner) h.concrete

theorem created_name : (c.created saved).name = c.name := by
  unfold created equipped
  cases c.kind.owner with
  | assessment =>
      dsimp only
      rw [withSuppliers_eq]
      rfl
  | _ => rfl

theorem recordName_created (howner : c.kind.owner = .platform) :
    recordName (c.created saved) = c.recordKey := by
  rw [created_of_platform howner]
  rfl

theorem recordName_assigned (howner : c.kind.owner = .platform) :
    recordName (c.assigned saved) = c.recordKey := by
  rw [assigned_of_platform howner]
  rfl

/-- An event is known outside before it has a kind. -/
theorem created_publicId (h : c.Granted saved) :
    (c.created saved).publicId = (c.unassigned saved).publicId := by
  rw [(alike h).publicId]
  unfold assigned
  split <;> rfl

theorem Granted.placed_created (h : c.Granted saved) :
    Placed c.settings (saved.add (c.created saved)) c.project.id (c.created saved).publicId
      (c.created saved) :=
  h.placed _ h.fits_created rfl ((alike h).project.trans (by unfold assigned; split <;> rfl))
    ((alike h).naming.trans (by unfold assigned; split <;> rfl))

theorem Granted.placed_assigned (h : c.Granted saved) :
    Placed c.settings (saved.add (c.assigned saved)) c.project.id (c.assigned saved).publicId
      (c.assigned saved) := by
  apply h.placed _ h.fits_assigned <;>
  · unfold assigned
    split <;> rfl

/-! ## Listing -/

/-- The organisations on the lot, each once. -/
theorem links_organisations (h : c.Granted saved) :
    (c.links saved).map (·.organisation) = c.organisations.eraseDups :=
  map_organisation_of_linked (linked_eraseDups.2 h.linked)

theorem organisations_created (h : c.Granted saved) (howner : c.kind.owner = .assessment) :
    (c.created saved).organisations = c.organisations.eraseDups := by
  have hnodup : ((c.links saved).map (·.organisation)).Nodup := by
    rw [links_organisations h]
    exact nodup_eraseDups c.organisations
  have hselected := organisations_withSuppliers hnodup
    { c.draft c.kind with assessment := some c.assessment } true c.principal
  rw [if_pos rfl, nil_appendNew] at hselected
  unfold created equipped
  rw [howner]
  exact hselected.trans (links_organisations h)

/-- An assigned kind brings no suppliers along. -/
theorem organisations_assigned : (c.assigned saved).organisations = [] := by
  unfold assigned
  split <;> rfl

/-- The platform shows the suppliers that it was sent with the record. -/
theorem listSuppliers_sourced (h : c.Granted saved) (howner : c.kind.owner = .platform) {row : Row}
    (hplaced : Placed c.settings (saved.add row) c.project.id row.publicId row)
    (hkind : row.kind = c.kind.name) (hname : recordName row = c.recordKey)
    (changes : List Request) :
    Triple c.surroundings (Run.At (.fresh (saved.add row)) (Within c.after changes))
      (listSuppliers c.settings c.project.id row.publicId)
      (fun refs r => refs.map (·.id) = c.organisations.eraseDups ∧
        r.At (.fresh (saved.add row)) (Within c.after changes)) Never := by
  have hs := h.sourced howner
  have hkeeper : keeper row = .ok .platform := by
    rw [keeper_of_kind hkind, howner]
  have hone : (saved.add row).OneToOne :=
    ⟨h.oneToOne.organisations, h.oneToOne.companies, h.oneToOne.words⟩
  rw [← links_organisations h]
  refine listSuppliers_shown (h.rests.calm changes) hplaced hkeeper hone found_subset ?_
  rw [hname]
  refine fetchRecord_calm hs.exports fun m asked hm => ?_
  obtain ⟨snapshot, status, hshown, hitems, -⟩ := hs.shows m hm.1
  exact ⟨⟨snapshot, hshown, hitems⟩,
    h.rests.keeps changes (.exchange (.showRecord c.recordKey)) rfl m asked hm⟩

/-- The suppliers that are told of the event. -/
theorem listSuppliers_granted (h : c.Granted saved) {row : Row}
    (hplaced : Placed c.settings (saved.add row) c.project.id row.publicId row)
    (hkind : row.kind = c.kind.name)
    (hname : c.kind.owner = .platform → recordName row = c.recordKey) (changes : List Request) :
    Triple c.surroundings (Run.At (.fresh (saved.add row)) (Within c.after changes))
      (listSuppliers c.settings c.project.id row.publicId)
      (fun refs r => refs.map (·.id) =
          (if c.kind.owner = .platform then c.organisations.eraseDups else row.organisations) ∧
        r.At (.fresh (saved.add row)) (Within c.after changes)) Never := by
  split
  · rename_i howner
    exact listSuppliers_sourced h howner hplaced hkind (hname howner) changes
  · rename_i hother
    have hkeeper : keeper row = .ok .table := by
      rw [keeper_of_kind hkind]
      cases howner : c.kind.owner with
      | assessment => rfl
      | platform => exact absurd howner hother
      | nobody => exact absurd (EventKind.owner_eq_nobody_iff.1 howner) h.concrete
    exact listSuppliers_table (h.rests.calm changes) hplaced hkeeper

/-! ## Both ways -/

/-- The creation of the event with its kind. -/
def createTyped (c : Commission ω) : Call :=
  .createEvent c.project.id { name := some c.name, kind := some c.kind } c.downSelected c.principal

/-- The creation of the event without a kind. -/
def createUntyped (c : Commission ω) : Call :=
  .createEvent c.project.id { name := some c.name } c.downSelected c.principal

/-- The assignment of its kind. -/
def assign (c : Commission ω) (event : String) : Call :=
  .updateEvent c.project.id event { kind := some c.kind } c.principal

def showSuppliers (c : Commission ω) (event : String) : Call :=
  .listSuppliers c.project.id event

abbrev outcome (c : Commission ω) (x : World ω) (call : Call) :
    Except Failure call.Result × Run ω :=
  x.outcome c.settings c.surroundings call

abbrev visit (c : Commission ω) (x : World ω) (call : Call) : World ω :=
  x.visit c.settings c.surroundings call

/-- The organisations that are told to be suppliers of an event. -/
def toldSuppliers (c : Commission ω) (y : World ω) (event : String) :
    Except Failure (List String) :=
  (c.outcome y (c.showSuppliers event)).1.map fun refs : List SupplierRef => refs.map (·.id)

/-- The event is there: its row was added to a store, it was told of, and it is told to have some
suppliers. -/
structure Stands (c : Commission ω) (saved : Store) (y : World ω) (told : EventSummary) (row : Row)
    (organisations : List String) : Prop where
  added : y.saved = saved.add row
  named : row.name = c.name
  typed : row.kind = c.kind.name
  summed : ∃ status, summary row status = .ok told
  supplied : c.toldSuppliers y told.id = .ok organisations

/-- The suppliers that are told of the event are those of its record, if it has one. -/
def organisationsOf (c : Commission ω) (row : Row) : List String :=
  if c.kind.owner = .platform then c.organisations.eraseDups else row.organisations

theorem organisationsOf_eq_iff (h : c.Granted saved) :
    c.organisationsOf (c.created saved) = c.organisationsOf (c.assigned saved) ↔
      (c.kind.owner = .assessment → c.organisations = []) := by
  unfold organisationsOf
  cases howner : c.kind.owner with
  | platform => simp
  | nobody => exact absurd (EventKind.owner_eq_nobody_iff.1 howner) h.concrete
  | assessment =>
      have hdistinct : c.organisations.eraseDups = [] ↔ c.organisations = [] := by
        simp only [List.eq_nil_iff_forall_not_mem, List.mem_eraseDups]
      simp [organisations_created h howner, organisations_assigned, hdistinct]

theorem Granted.stands (h : c.Granted saved) {y : World ω} {told : EventSummary} {row : Row}
    (hadded : y.saved = saved.add row) (hafter : c.after y.memory)
    (hplaced : Placed c.settings (saved.add row) c.project.id row.publicId row)
    (halike : (c.created saved).Alike row)
    (hname : c.kind.owner = .platform → recordName row = c.recordKey)
    (htold : ∃ status, summary row status = .ok told) :
    c.Stands saved y told row (c.organisationsOf row) where
  added := hadded
  named := halike.name.symm.trans created_name
  typed := halike.kind.symm.trans created_kind
  summed := htold
  supplied := by
    obtain ⟨status, hsummary⟩ := htold
    have hlist := listSuppliers_granted h hplaced (halike.kind.symm.trans created_kind) hname []
    rw [← hadded, (summary_eq_ok hsummary).1] at hlist
    obtain ⟨refs, hok, hrefs, -⟩ :=
      World.visit_of_triple y (c.showSuppliers told.id) ⟨hafter, rfl⟩ hlist
    unfold toldSuppliers
    rw [hok]
    exact congrArg Except.ok hrefs

/-- Wherever everybody answers what the commission says, an event can be created with its kind, and
it can be created without one and be assigned it. Both ways end in the same event: with the same
number, name and kind, the same record or assessment, and the same order for a record, if any. The
same suppliers are told of it, unless its kind calls for an assessment and there are organisations
on the lot: these are selected for the event by a creation only. -/
theorem assigned_like_created (c : Commission ω) {x : World ω} (h : c.Granted x.saved)
    (hstart : c.before x.memory) :
    let y := c.visit x c.createTyped
    let z := c.visit x c.createUntyped
    ∃ (told told₀ told' : EventSummary) (row row' : Row)
        (organisations organisations' : List String),
      (c.outcome x c.createTyped).1 = .ok told ∧ (c.outcome x c.createUntyped).1 = .ok told₀ ∧
        (c.outcome z (c.assign told₀.id)).1 = .ok told' ∧
      told.id = told₀.id ∧ told'.id = told₀.id ∧
      c.Stands x.saved y told row organisations ∧
        c.Stands x.saved (c.visit z (c.assign told₀.id)) told' row' organisations' ∧
      row.Alike row' ∧
      changesOf (c.outcome x c.createTyped).2.asked =
        changesOf (c.outcome x c.createUntyped).2.asked ++
          changesOf (c.outcome z (c.assign told₀.id)).2.asked ∧
      (organisations = organisations' ↔ (c.kind.owner = .assessment → c.organisations = [])) := by
  intro y z
  obtain ⟨told, hok, htold, hadded, hafter, hsent⟩ :=
    World.visit_of_triple x c.createTyped ⟨hstart, rfl⟩ (createEvent_granted h)
  obtain ⟨told₀, hok₀, htold₀, hadded₀, hbefore, hsilent⟩ :=
    World.visit_of_triple x c.createUntyped ⟨hstart, rfl⟩ (createEvent_unassigned h)
  have hassign := updateEvent_assigns h
  rw [← hadded₀, (summary_eq_ok htold₀).1] at hassign
  obtain ⟨told', hok', htold', hadded', hafter', hsent'⟩ :=
    World.visit_of_triple z (c.assign told₀.id) ⟨hbefore, rfl⟩ hassign
  have hid : told.id = told₀.id := by
    rw [← (summary_eq_ok htold).1, ← (summary_eq_ok htold₀).1, created_publicId h]
  have hid' : told'.id = told₀.id := by
    obtain ⟨status, hsummary⟩ := htold'
    rw [← (summary_eq_ok hsummary).1, ← (alike h).publicId, created_publicId h]
    exact (summary_eq_ok htold₀).1
  refine ⟨told, told₀, told', c.created x.saved, c.assigned x.saved, _, _, hok, hok₀, hok', hid,
    hid',
    h.stands hadded hafter h.placed_created (.refl _) recordName_created ⟨_, htold⟩,
    h.stands hadded' hafter' h.placed_assigned (alike h) recordName_assigned htold', alike h, ?_,
    organisationsOf_eq_iff h⟩
  rw [hsent, hsilent, hsent']
  rfl

end Commission

/-! ## A platform with one supplier -/

/-- A planned record with one supplier, as it is shown. -/
def offeredShown : Reply :=
  .ofJson (.obj [("dataList", .arr [.obj [
    ("rfxSetting", .obj [("statusCode", .int 100)]),
    ("suppliersList", .obj [("supplier",
      .arr [.obj [("companyData", .obj [("id", .int 7)])]])])]])])

/-- Surroundings that remember whether anything was opened. -/
def offered : Surroundings Bool
  | .exchange (.write _), _ => (.ofReceipt benchDone, true)
  | .exchange _, opened => (offeredShown, opened)
  | .buyerUser _, opened => (.ok (some "user_1"), opened)
  | .buyerCompany _, opened => (.ok none, opened)
  | .lotSuppliers _ _, opened => (.ok ["GB-1"], opened)
  | .newAssessment _ _ _ _, _ => (.ok 1, true)
  | .assessment id _, opened => (.ok ⟨id, "planning"⟩, opened)
  | .criteria _ _, opened => (.ok (.arr []), opened)
  | .lookup, opened => (true, opened)
  | .commit, opened => (none, opened)
  | .clock, opened => (default, opened)
  | .pause _, opened => ((), opened)

/-- An event of a kind in these surroundings. -/
def offeredEvent (kind : EventKind) : Commission Bool where
  settings := shownSettings
  surroundings := offered
  project := benchProject
  name := "Pens"
  kind := kind
  downSelected := false
  principal := "buyer"
  user := "user_1"
  company := none
  template := "rfq_0"
  organisations := ["GB-1"]
  receipt := benchDone
  assessment := 1
  before := (· = false)
  after := (· = true)

/-- A table without events, where the organisation on the lot is linked. -/
def offeredWorld : World Bool :=
  .opening [benchProject] [⟨"GB-1", 7⟩] false

theorem offered_phase (opened : Bool) : Phase offered (· = opened) where
  answers := fun _ _ => rfl
  commits := fun _ _ => rfl
  idle := by
    rintro q hq m rfl
    cases q with
    | exchange request => cases request <;> first | rfl | cases hq
    | newAssessment => exact absurd hq id
    | _ => rfl

theorem offered_reaches : Reaches shownSettings "createRfx" ∧ Reaches shownSettings "exportRfx" :=
  ⟨⟨"http://remote.test/create", by decide +kernel⟩,
    ⟨"http://remote.test/export", by decide +kernel⟩⟩

theorem offered_sourced (kind : EventKind) : (offeredEvent kind).Sourced offeredWorld.saved where
  creates := offered_reaches.1
  exports := offered_reaches.2
  template := rfl
  named := by simp [offeredEvent]
  user := fun _ _ => rfl
  company := fun _ _ => rfl
  accepts := fun _ _ => ⟨benchDone_sent, rfl⟩
  shows := fun _ _ => by
    let shown : Snapshot :=
      { head := .set { statusCode := .set 100 }, suppliers := .set (.ofCompanies [7]) }
    have hshown : Snapshot.ofReply "rfq_1" offeredShown = .ok shown := by decide +kernel
    have hstatus : translate shownSettings.statuses (Status.codeText shown.statusCode?) =
        .ok .planned := by decide +kernel
    exact ⟨shown, .planned, hshown, rfl, hstatus⟩

theorem offered_assessed (kind : EventKind) : (offeredEvent kind).Assessed where
  opens := fun _ _ => ⟨rfl, rfl⟩
  word := rfl
  tells := fun _ _ => ⟨⟨1, "planning"⟩, .planning, rfl, by decide +kernel⟩

theorem offered_granted {kind : EventKind} (h : kind ≠ .tbd) :
    (offeredEvent kind).Granted offeredWorld.saved where
  concrete := h
  named := by simp [offeredEvent]
  known := rfl
  reads := ⟨rfl, rfl⟩
  room := by decide
  oneToOne := ⟨by decide, by decide, by decide +kernel⟩
  waits := offered_phase false
  rests := offered_phase true
  lot := fun _ _ => rfl
  linked := List.forall_mem_singleton.2 rfl
  sourced := fun _ => offered_sourced kind
  assessed := fun _ => offered_assessed kind

namespace Commission

/-- An event with a record is told to have the same supplier both ways. -/
theorem assigned_like_created_bench :
    let c := offeredEvent .rfi
    let x := offeredWorld
    c.Granted x.saved ∧
      ∃ (told told' : EventSummary) (row row' : Row) (organisations : List String),
        c.Stands x.saved (c.visit x c.createTyped) told row organisations ∧
          c.Stands x.saved (c.visit (c.visit x c.createUntyped) (c.assign told.id)) told' row'
            organisations ∧ row.Alike row' := by
  intro c x
  have hgranted : c.Granted x.saved := offered_granted (by decide)
  obtain ⟨told, told₀, told', row, row', organisations, organisations', -, -, -, hid, -, hstands,
    hstands', halike, -, hsuppliers⟩ := assigned_like_created c hgranted rfl
  have hsame : organisations = organisations' := hsuppliers.2 fun howner => by cases howner
  rw [← hid, ← hsame] at hstands'
  exact ⟨hgranted, told, told', row, row', organisations, hstands, hstands', halike⟩

/-- The organisation on the lot is selected for an event that is created with its kind, and not for
one that is assigned the kind later. -/
theorem assigned_without_suppliers :
    let c := offeredEvent .fca
    let x := offeredWorld
    c.Granted x.saved ∧ c.before x.memory ∧
      c.toldSuppliers (c.visit x c.createTyped) "ocds-b5fd17-1" = .ok ["GB-1"] ∧
        c.toldSuppliers (c.visit (c.visit x c.createUntyped) (c.assign "ocds-b5fd17-1"))
          "ocds-b5fd17-1" = .ok [] := by
  intro c x
  have hcreated : c.toldSuppliers (c.visit x c.createTyped) "ocds-b5fd17-1" = .ok ["GB-1"] := by
    decide +kernel
  have hassigned : c.toldSuppliers (c.visit (c.visit x c.createUntyped) (c.assign "ocds-b5fd17-1"))
      "ocds-b5fd17-1" = .ok [] := by
    decide +kernel
  exact ⟨offered_granted (by decide), rfl, hcreated, hassigned⟩

end Commission
end Desk
end TenderDesk
