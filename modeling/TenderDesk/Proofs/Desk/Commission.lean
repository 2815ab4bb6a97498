import TenderDesk.Proofs.Desk.Operations
import TenderDesk.Proofs.Desk.Order
import TenderDesk.Proofs.Desk.Suppliers

/-!
# Commission — an event is opened, and nothing stands in its way

A `Commission` is a wish for an event together with all that is going to be told about it. It is
`Granted` where everybody tells so whenever they are asked, until something is opened for the event
and from then on: the memories of the surroundings fall into these two phases.

* `createRecord_granted` and `openAssessment_granted` open what an event needs, and lead from one
  phase to the other. Nothing else does.
* `createEvent_granted` follows a creation to its end, with the kind of the commission or without
  any: which row is added, and what was sent to the platform for it.
-/

namespace TenderDesk
namespace Desk

open Sourcing

variable {ω : Type}

/-! ## Phases -/

/-- What opens nothing outside of the table. -/
def Question.IsIdle : Question → Prop
  | .exchange request => request.isWriting = false
  | .newAssessment _ _ _ _ => False
  | _ => True

theorem Question.isIdle_of_isLookup {q : Question} (h : q.IsLookup) : q.IsIdle := by
  cases q <;> trivial

/-- The requests for a change that questions send, whether it is made or not. -/
def changesOf (qs : List Question) : List Request :=
  (requestsOf qs).filter (·.isWriting)

theorem changesOf_append (qs qs' : List Question) :
    changesOf (qs ++ qs') = changesOf qs ++ changesOf qs' := by
  unfold changesOf
  rw [requestsOf_append, List.filter_append]

theorem changesOf_of_isIdle {q : Question} (h : q.IsIdle) : changesOf [q] = [] := by
  cases q with
  | exchange request =>
      have hidle : request.isWriting = false := h
      simp [changesOf, requestsOf, Question.request?, hidle]
  | _ => rfl

/-- In a phase the store takes part whenever it is asked to, and what opens nothing does not end the
phase. -/
structure Phase (w : Surroundings ω) (P : ω → Prop) : Prop where
  answers : ∀ m, P m → (w .lookup m).1 = true
  commits : ∀ m, P m → (w .commit m).1 = none
  idle : ∀ q : Question, q.IsIdle → ∀ m, P m → P (w q m).2

/-- The memory is in a phase, and some changes were asked for. -/
def Within (P : ω → Prop) (changes : List Request) : Trail ω :=
  fun m asked => P m ∧ changesOf asked = changes

namespace Phase

variable {w : Surroundings ω} {P : ω → Prop}

theorem keeps (h : Phase w P) (changes : List Request) :
    w.Keeps Question.IsIdle (Within P changes) := by
  rintro q hq m asked ⟨hm, hasked⟩
  refine ⟨h.idle q hq m hm, ?_⟩
  rw [changesOf_append, hasked, changesOf_of_isIdle hq, List.append_nil]

theorem calm (h : Phase w P) (changes : List Request) : Calm w (Within P changes) where
  answers := fun m _ hm => h.answers m hm.1
  commits := fun m _ hm => h.commits m hm.1
  lookups := fun q hq => h.keeps changes q (Question.isIdle_of_isLookup hq)
  saves := by
    rintro q rfl
    exact h.keeps changes .commit trivial

/-- What everybody is told in a phase, and may be told at any time. -/
theorem ask (h : Phase w P) {q : Question} {answer : q.Answer}
    (htold : ∀ m, P m → (w q m).1 = answer) (hq : q.IsIdle) (σ : Session)
    (changes : List Request) :
    Triple w (Run.At σ (Within P changes)) (Action.ask q)
      (fun a r => a = answer ∧ r.At σ (Within P changes)) Never :=
  Triple.ask fun _ hr => ⟨htold _ hr.2.1, hr.1, h.keeps changes q hq _ _ hr.2⟩

end Phase

/-! ## Commissions -/

/-- An event that somebody wishes for, and all that is told about it. -/
structure Commission (ω : Type) where
  settings : Settings
  surroundings : Surroundings ω
  project : Project
  name : String
  kind : EventKind
  downSelected : Bool
  principal : String
  user : String
  company : Option String
  template : String
  /-- The organisations on the lot of the project. -/
  organisations : List String
  receipt : Receipt
  assessment : Int
  /-- Nothing was opened for the event so far. -/
  before : ω → Prop
  /-- The record of the event was created, or its assessment was opened. -/
  after : ω → Prop

namespace Commission

variable (c : Commission ω) (saved : Store)

/-- The links of the organisations on the lot. -/
def links : List Link :=
  c.organisations.eraseDups.filterMap saved.linkOf?

def record : Rfx :=
  newRecord c.project c.name c.template c.user c.company ((c.links saved).map (·.company))

/-- What is sent to the platform for the event. -/
def changes : List Request :=
  if c.kind.owner = .platform then [creation (c.record saved)] else []

/-- The id by which the record is asked for. -/
def recordKey : String :=
  c.receipt.id.get?.getD "None"

/-- Nothing was opened so far. -/
def Ready : Trail ω :=
  Within c.before []

/-- All was opened that the event needs, and nothing else. -/
def Done : Trail ω :=
  Within c.after (c.changes saved)

/-- The platform creates the record that is asked for, and shows it then with the suppliers that it
was sent. -/
structure Sourced : Prop where
  creates : Reaches c.settings "createRfx"
  exports : Reaches c.settings "exportRfx"
  template : creationParameter c.settings.platform "templateId" = .ok c.template
  named : c.user ≠ ""
  user : ∀ m, c.before m → (c.surroundings (.buyerUser c.principal) m).1 = .ok (some c.user)
  company : ∀ m, c.before m → (c.surroundings (.buyerCompany c.principal) m).1 = .ok c.company
  accepts : ∀ m, c.before m →
    (c.surroundings (.exchange (creation (c.record saved))) m).1.receipt? = some c.receipt ∧
      c.after (c.surroundings (.exchange (creation (c.record saved))) m).2
  shows : ∀ m, c.after m → ∃ snapshot status,
    Snapshot.ofReply c.recordKey (c.surroundings (.exchange (.showRecord c.recordKey)) m).1 =
      .ok snapshot ∧
    snapshot.supplierItems.map Supplier.companyId? = ((c.links saved).map (·.company)).map some ∧
    translate c.settings.statuses (Status.codeText snapshot.statusCode?) = .ok status

/-- An assessment is opened where it is asked for, and has a status then. -/
structure Assessed : Prop where
  opens : ∀ m, c.before m →
    let q := Question.newAssessment c.project.framework c.project.lot c.kind c.principal
    (c.surroundings q m).1 = .ok c.assessment ∧ c.after (c.surroundings q m).2
  word : Schema.Codec.fitsWord c.assessment = true
  tells : ∀ m, c.after m → ∃ report status,
    (c.surroundings (.assessment c.assessment c.principal) m).1 = .ok report ∧
      statusOfWord report.status = .ok status

/-- Nothing stands against the event, and everybody tells what the commission says. -/
structure Granted : Prop where
  concrete : c.kind ≠ .tbd
  named : c.name ≠ ""
  known : saved.project? c.project.id = some c.project
  reads : saved.Reads [c.project.id]
  /-- The number of the new row is a word of the store. -/
  room : saved.nextId < 2 ^ 63
  oneToOne : saved.OneToOne
  waits : Phase c.surroundings c.before
  rests : Phase c.surroundings c.after
  lot : ∀ m, c.before m →
    (c.surroundings (.lotSuppliers c.project.framework c.project.lot) m).1 = .ok c.organisations
  linked : Linked saved c.organisations
  sourced : c.kind.owner = .platform → c.Sourced saved
  assessed : c.kind.owner = .assessment → c.Assessed

variable {c saved}

/-! ## What is opened -/

theorem Granted.lotLinks (h : c.Granted saved) {σ : Session} (hopen : σ.blocked = none)
    (hfits : σ.working.fits = true) (hlinks : σ.working.linkOf? = saved.linkOf?) :
    Triple c.surroundings (Run.At σ c.Ready) (lotLinks c.settings c.project)
      (fun found r => found = c.links saved ∧ r.At σ c.Ready) Never := by
  have hlinked : Linked σ.working c.organisations := by
    unfold Linked
    rw [hlinks]
    exact h.linked
  unfold Desk.lotLinks links
  apply Triple.bind_known (h.waits.ask h.lot trivial σ [])
  rw [Action.ofExcept_ok, pure_bind, ← hlinks]
  exact links_working (h.waits.calm []) hopen hfits hlinked c.settings

theorem Sourced.findUser (h : c.Sourced saved) (hw : Phase c.surroundings c.before)
    (σ : Session) :
    Triple c.surroundings (Run.At σ c.Ready) (findUser c.principal)
      (fun user r => user = c.user ∧ r.At σ c.Ready) Never := by
  unfold Desk.findUser
  apply Triple.bind_known (hw.ask h.user trivial σ [])
  rw [Action.ofExcept_ok, pure_bind]
  dsimp only
  rw [if_neg fun hempty => h.named (String.isEmpty_iff.1 hempty)]
  exact Triple.pure fun r h => ⟨rfl, h⟩

/-- Wherever the session stands, a record is created with what is told about the event. -/
theorem createRecord_granted (h : c.Granted saved) (howner : c.kind.owner = .platform)
    {σ : Session} (hopen : σ.blocked = none) (hfits : σ.working.fits = true)
    (hlinks : σ.working.linkOf? = saved.linkOf?) {row : Row} (hname : row.name = c.name)
    {project : Action ω Project} (hproject : Triple c.surroundings (Run.At σ c.Ready) project
      (fun p r => p = c.project ∧ r.At σ c.Ready) Never) :
    Triple c.surroundings (Run.At σ c.Ready) (createRecord c.settings row project c.principal)
      (fun row' r => row' = withReceipt row c.receipt ∧ r.At σ (c.Done saved)) Never := by
  have hs := h.sourced howner
  have hrecord : newRecord c.project row.name c.template c.user c.company
      ((c.links saved).map (·.company)) = c.record saved := by
    rw [hname]
    rfl
  unfold createRecord
  apply Triple.bind_known (hs.findUser h.waits σ)
  apply Triple.bind_known (h.waits.ask hs.company trivial σ [])
  rw [Action.ofExcept_ok, pure_bind]
  apply Triple.bind_known hproject
  apply Triple.bind_known (h.lotLinks hopen hfits hlinks)
  rw [hs.template, Action.ofExcept_ok, pure_bind]
  dsimp only
  rw [hrecord]
  refine Triple.bind_known (a := c.receipt) (R := Run.At σ (c.Done saved))
    (writeRecord_calm hs.creates ?_) ?_
  · rintro m asked ⟨hm, hasked⟩
    obtain ⟨hreceipt, hafter⟩ := hs.accepts m hm
    refine ⟨⟨c.receipt, hreceipt, rfl⟩, hafter, ?_⟩
    rw [changesOf_append, hasked, changes, if_pos howner]
    rfl
  · exact Triple.pure fun r h => ⟨rfl, h⟩

theorem openAssessment_granted (h : c.Granted saved) (howner : c.kind.owner = .assessment)
    (σ : Session) :
    Triple c.surroundings (Run.At σ c.Ready) (openAssessment c.project c.kind c.principal)
      (fun id r => id = c.assessment ∧ r.At σ (c.Done saved)) Never := by
  unfold openAssessment
  apply Triple.bind_known (a := .ok c.assessment) (R := Run.At σ (c.Done saved))
  · refine Triple.ask fun r hr => ?_
    obtain ⟨htold, hafter⟩ := (h.assessed howner).opens r.memory hr.2.1
    refine ⟨htold, hr.1, hafter, ?_⟩
    -- An assessment is not opened on the platform.
    rw [changesOf_append, hr.2.2, changes, howner]
    rfl
  · exact Triple.pure fun r h => ⟨rfl, h⟩

/-! ## Creating -/

section

variable (c saved)

/-- The row of the event before anything is opened for it. -/
def draft (kind : EventKind) : Row :=
  Desk.draft c.settings c.project c.name kind c.downSelected c.principal

/-- The row of the event with what was opened for it. -/
def equipped : Row :=
  match c.kind.owner with
  | .assessment => withSuppliers { c.draft c.kind with assessment := some c.assessment }
      ((c.links saved).map (·.organisation)) true c.principal
  | .platform => withReceipt (c.draft c.kind) c.receipt
  | .nobody => c.draft c.kind

/-- The row that is added where the kind is asked for at once. -/
def created : Row :=
  { c.equipped saved with id := saved.nextId }

/-- The row that is added where no kind is asked for. -/
def unassigned : Row :=
  { c.draft .tbd with id := saved.nextId }

end

theorem Granted.fits_created (h : c.Granted saved) : (c.created saved).fits = true := by
  unfold created equipped
  cases howner : c.kind.owner with
  | assessment =>
      dsimp only
      rw [withSuppliers_eq]
      simp [Row.fits, draft, Desk.draft, (h.assessed howner).word]
  | platform => rfl
  | nobody => rfl

theorem openEvent_granted (h : c.Granted saved) :
    Triple c.surroundings (Run.At (.fresh saved) c.Ready)
      (openEvent c.settings c.project (c.draft c.kind) c.kind none c.principal)
      (fun row r => row = c.created saved ∧ r.At (.fresh (saved.add row)) (c.Done saved))
      Never := by
  have added := insert_calm (h.rests.calm (c.changes saved)) (c.equipped saved)
    (Store.fits_add h.reads.1 h.fits_created)
  unfold equipped at added
  unfold openEvent created equipped
  cases howner : c.kind.owner with
  | assessment =>
      rw [howner] at added
      dsimp only at added ⊢
      apply Triple.bind_known (h.lotLinks (σ := .fresh saved) rfl h.reads.1 rfl)
      apply Triple.bind_known (openAssessment_granted h howner (.fresh saved))
      exact added
  | platform =>
      rw [howner] at added
      dsimp only at added ⊢
      apply Triple.bind_known (createRecord_granted h howner (σ := .fresh saved) rfl h.reads.1
        rfl rfl (Triple.pure fun r h => ⟨rfl, h⟩))
      exact added
  | nobody => exact absurd (EventKind.owner_eq_nobody_iff.1 howner) h.concrete

theorem created_kind : (c.created saved).kind = c.kind.name := by
  unfold created equipped
  cases c.kind.owner with
  | assessment =>
      dsimp only
      rw [withSuppliers_eq]
      rfl
  | _ => rfl

theorem titleFor_of_ne {p : Platform} {project : Project} {name : String} (h : name ≠ "")
    (kind : EventKind) : titleFor p project (some name) kind = .ok name := by
  have hsome : (!name.isEmpty) = true := by simpa using h
  unfold titleFor
  rw [Option.filter_some, if_pos hsome]

/-- An event that is created with its kind is opened at once. -/
theorem createEvent_granted (h : c.Granted saved) :
    Triple c.surroundings (Run.At (.fresh saved) c.Ready)
      (createEvent c.settings c.project.id { name := some c.name, kind := some c.kind }
        c.downSelected c.principal)
      (fun told r => summary (c.created saved) .planning = .ok told ∧
        r.At (.fresh (saved.add (c.created saved))) (c.Done saved)) Never := by
  unfold createEvent
  apply Triple.bind_known (findProject_calm (h.waits.calm []) h.reads h.known)
  dsimp only [Option.getD_some]
  rw [titleFor_of_ne h.named, Action.ofExcept_ok, pure_bind]
  apply Triple.bind (openEvent_granted h)
  intro row
  apply Triple.of_fact
  rintro rfl
  obtain ⟨told, htold⟩ : ∃ told, summary (c.created saved) .planning = .ok told := by
    unfold summary
    rw [ofName_eq_ok_iff.2 created_kind]
    exact ⟨_, rfl⟩
  rw [htold, Action.ofExcept_ok]
  exact Triple.pure fun r h => ⟨rfl, h⟩

/-- Nothing is opened for an event that is created without a kind. -/
theorem createEvent_unassigned (h : c.Granted saved) :
    Triple c.surroundings (Run.At (.fresh saved) c.Ready)
      (createEvent c.settings c.project.id { name := some c.name } c.downSelected c.principal)
      (fun told r => summary (c.unassigned saved) .planning = .ok told ∧
        r.At (.fresh (saved.add (c.unassigned saved))) c.Ready) Never := by
  unfold createEvent
  apply Triple.bind_known (findProject_calm (h.waits.calm []) h.reads h.known)
  dsimp only [Option.getD_none]
  rw [titleFor_of_ne h.named, Action.ofExcept_ok, pure_bind]
  apply Triple.bind (insert_calm (h.waits.calm []) (c.draft .tbd) (Store.fits_add h.reads.1 rfl))
  intro row
  apply Triple.of_fact
  rintro rfl
  exact Triple.pure fun r h => ⟨rfl, h⟩

end Commission
end Desk
end TenderDesk
