import TenderDesk.Desk.Call
import TenderDesk.Proofs.Desk.Leftovers
import TenderDesk.Proofs.Desk.Outage
import TenderDesk.Proofs.Sourcing.Export

/-!
# Endurance — no operation reads its table behind a change

Every operation is gone through once. What reads and what only asks may stand anywhere before the
first change; a request for a change, a new assessment and a commit have no read call behind them.

* `perform_endures` collects the operations.
* `transient_reads_unseen`: as long as no read call fails at each of its tries, nobody but the store
  can tell a run from one without an outage; a read call that does fail at each of them ends the run
  before anything was changed.
-/

namespace TenderDesk
namespace Desk

open Sourcing Document

variable {ω α : Type} {w : Surroundings ω} {fails : Outage} {tries : Nat} {reads writes : Bool}

/-! ## Requests -/

section

variable {p : Platform}

theorem ofPlatform_endures (e : Except PlatformFault α) :
    Endures w fails tries reads writes (ofPlatform e) := by
  cases e with
  | ok a => exact .pure a
  | error fault => exact .fail _

/-- A request changes something only if it asks for a change. -/
theorem exchange_endures {request : Request} (h : writes = false → request.isWriting = false) :
    Endures w fails tries reads writes (exchange p request) := by
  refine .bind (.ofExcept _) fun _ => .ask rfl ?_
  intro hw
  show ¬request.isWriting = true
  rw [h hw]
  exact Bool.false_ne_true

theorem exchangeJson_endures {request : Request} (h : writes = false → request.isWriting = false) :
    Endures w fails tries reads writes (exchangeJson p request) :=
  .bind_writing (exchange_endures h) fun _ => .ofExcept _

theorem fetchRecord_endures (id : String) :
    Endures w fails tries reads writes (fetchRecord p id) :=
  .bind (exchangeJson_endures fun _ => rfl) fun _ => .ofExcept _

theorem fetchFile_endures (key : Key) : Endures w fails tries reads writes (fetchFile p key) :=
  .bind (exchange_endures fun _ => rfl) fun _ => .ofExcept _

theorem writeRecord_endures (command : Command) (rfx : Rfx) :
    Endures w fails tries reads true (writeRecord p command rfx) :=
  .bind_writing (exchangeJson_endures fun hw => by cases hw) fun _ => ofPlatform_endures _

theorem uploadFile_endures (fileName : String) (data : List UInt8) (change : Change) :
    Endures w fails tries reads true (uploadFile p fileName data change) :=
  .bind_writing (exchangeJson_endures fun hw => by cases hw) fun _ => ofPlatform_endures _

theorem publishRecord_endures (order : PublishOrder) :
    Endures w fails tries reads true (publishRecord p order) :=
  .bind_writing (exchangeJson_endures fun hw => by cases hw) fun _ => ofPlatform_endures _

end

/-! ## The table -/

theorem stage_endures (row : Row) : Endures w fails tries reads writes (stage row) :=
  .edit fun _ _ => rfl

theorem commit_endures : Endures w fails tries reads true (commit : Action (ω × Nat) Verdict) :=
  .bind_writing (.ask (q := .commit) rfl fun hw => by cases hw) fun _ =>
    .bind .store fun _ => .pure _

theorem edit_fail_endures {α : Type} {f : Session → Session} (hsaved : ∀ σ, (f σ).saved = σ.saved)
    (failure : Failure) :
    Endures w fails tries false true
      (do Action.edit f; Action.fail failure : Action (ω × Nat) α) :=
  .bind (.edit fun _ => hsaved) fun _ => .fail failure

theorem save_endures : Endures w fails tries reads true (save : Action (ω × Nat) Unit) := by
  refine .bind_writing commit_endures fun v => ?_
  cases v with
  | done => exact .edit fun hw => by cases hw
  | refused failure => exact edit_fail_endures (f := .rollback) (fun _ => rfl) failure
  | unsent failure => exact edit_fail_endures (f := .block failure.message) (fun _ => rfl) _

theorem insert_endures (row : Row) :
    Endures w fails tries reads true (insert row : Action (ω × Nat) Row) := by
  refine .bind .store fun _ => .bind (.edit fun _ _ => rfl) fun _ => ?_
  refine .bind_writing commit_endures fun v => ?_
  cases v with
  | done => exact .bind_writing (.edit fun hw => by cases hw) fun _ => .pure _
  | refused failure => exact edit_fail_endures (f := .rollback) (fun _ => rfl) failure
  | unsent failure => exact edit_fail_endures (f := .rollback) (fun _ => rfl) failure

theorem projectOf_endures (row : Row) :
    Endures w fails tries reads writes (projectOf row : Action (ω × Nat) Project) :=
  .bind .store fun _ => .ofOption _ _

section

variable (s : Settings)

theorem findProject_endures (project : Int) :
    Endures w fails (Patience.calls s.attempts) true writes (findProject s project) :=
  .bind (look_endures s _ _) fun _ => .ofOption _ _

theorem findEvent_endures (project : Int) (event : String) :
    Endures w fails (Patience.calls s.attempts) true writes (findEvent s project event) :=
  .bind (.ofExcept _) fun _ => .bind (look_endures s _ _) fun _ => .ofOption _ _

theorem findEvents_endures (project : Int) :
    Endures w fails (Patience.calls s.attempts) true writes (findEvents s project) :=
  look_endures s _ _

theorem links_endures (organisations : List String) :
    Endures w fails (Patience.calls s.attempts) true writes (links s organisations) := by
  unfold links
  extract_lets distinct rest
  have known : ∀ found : List Link, Endures w fails (Patience.calls s.attempts) true writes
      (rest found) := by
    intro found
    dsimp only [rest]
    split
    · exact .pure found
    · exact .fail _
  split
  · exact .bind (.pure []) known
  · exact .bind (look_endures s _ _) known

theorem findLink_endures (organisation : String) :
    Endures w fails (Patience.calls s.attempts) true writes (findLink s organisation) :=
  .bind (look_endures s _ _) fun _ => .ofOption _ _

theorem findLinkOfCompany_endures (company : Int) :
    Endures w fails (Patience.calls s.attempts) true writes (findLinkOfCompany s company) :=
  .bind (look_endures s _ _) fun _ => .ofOption _ _

end

/-! ## Suppliers -/

section

variable (s : Settings)

theorem supplierRef_endures (record : String) (supplier : Supplier) :
    Endures w fails (Patience.calls s.attempts) true writes (supplierRef s record supplier) := by
  unfold supplierRef
  split
  · exact .fail _
  · exact .bind (findLinkOfCompany_endures s _) fun _ => .pure _

theorem supplierRefs_endures (record : String) (suppliers : List Supplier) :
    Endures w fails (Patience.calls s.attempts) true writes (supplierRefs s record suppliers) := by
  induction suppliers with
  | nil => exact .pure []
  | cons supplier rest ih =>
      exact .bind (supplierRef_endures s record supplier) fun _ => .bind_writing ih fun _ => .pure _

theorem suppliersOf_endures (row : Row) :
    Endures w fails (Patience.calls s.attempts) true writes (suppliersOf s row) := by
  refine .bind (.ofExcept _) fun k => ?_
  cases k with
  | table => exact .pure _
  | platform => exact .bind (fetchRecord_endures _) fun _ => supplierRefs_endures s _ _

theorem addSuppliersTo_endures (row : Row) (organisations : List String) (overwrite : Bool)
    (principal : String) :
    Endures w fails (Patience.calls s.attempts) true true
      (addSuppliersTo s row organisations overwrite principal) := by
  refine .bind (links_endures s _) fun _ => .bind (.ofExcept _) fun k => ?_
  cases k with
  | table => exact .bind (stage_endures _) fun _ => save_endures
  | platform => exact .bind_writing (writeRecord_endures _ _) fun _ => .pure _

theorem deleteSelection_endures (row : Row) (organisation principal : String) :
    Endures w fails tries reads true
      (deleteSelection row organisation principal : Action (ω × Nat) Unit) := by
  unfold deleteSelection
  split
  · exact .bind (stage_endures _) fun _ => save_endures
  · exact .fail _

theorem deleteListed_endures (row : Row) (link : Link) :
    Endures w fails tries reads true (deleteListed s row link) := by
  refine .bind (fetchRecord_endures _) fun record => ?_
  dsimp only
  split
  · exact .fail _
  · exact .bind_writing (writeRecord_endures _ _) fun _ => .pure _

theorem deleteSupplierOf_endures (row : Row) (organisation principal : String) :
    Endures w fails (Patience.calls s.attempts) true true
      (deleteSupplierOf s row organisation principal) := by
  refine .bind (findLink_endures s _) fun _ => .bind (.ofExcept _) fun k => ?_
  cases k with
  | table => exact deleteSelection_endures _ _ _
  | platform => exact deleteListed_endures s _ _

end

/-! ## Documents -/

section

variable (s : Settings)

theorem documentsOf_endures (row : Row) :
    Endures w fails tries reads writes (documentsOf s row) :=
  .bind (.ofExcept _) fun _ => .bind (fetchRecord_endures _) fun _ => .ofExcept _

/-- The documents are listed again behind the upload, which reads nothing of the table. -/
theorem uploadTo_endures (row : Row) (upload : Upload) :
    Endures w fails tries reads true (uploadTo s row upload) :=
  .bind (.ofExcept _) fun _ => .bind (.ofExcept _) fun _ =>
    .bind (documentsOf_endures s row) fun _ => .bind (.ofExcept _) fun _ =>
      .bind_writing (uploadFile_endures _ _ _) fun _ =>
        .bind (documentsOf_endures s row) fun _ => .ofOption _ _

theorem fileOf_endures (row : Row) (id : String) :
    Endures w fails tries reads writes (fileOf s row id) :=
  .bind (.ofExcept _) fun _ => .bind (.ofExcept _) fun _ => fetchFile_endures _

end

/-! ## Events -/

section

variable (s : Settings)

theorem statusOf_endures (row : Row) (principal : String) :
    Endures w fails tries reads writes (statusOf s row principal) := by
  unfold statusOf
  split
  · exact .bind (fetchRecord_endures _) fun _ => .bind (ofPlatform_endures _) fun _ => .pure _
  · split
    · exact .bind (.ask rfl fun _ => id) fun _ => .bind (.ofExcept _) fun _ =>
        .bind (ofPlatform_endures _) fun _ => .pure _
    · exact .pure _

theorem findUser_endures (principal : String) :
    Endures w fails tries reads writes (findUser principal : Action (ω × Nat) String) := by
  refine .bind (.ask rfl fun _ => id) fun _ => .bind (.ofExcept _) fun user => ?_
  cases user with
  | none => exact .fail _
  | some user =>
      dsimp only
      split
      · exact .fail _
      · exact .pure _

theorem checkAssessment_endures (id : Int) (principal : String) :
    Endures w fails tries reads writes (checkAssessment id principal : Action (ω × Nat) Int) :=
  .bind (.ask rfl fun _ => (fun h => h)) fun _ => .bind (.ofExcept _) fun _ => .pure _

theorem openAssessment_endures (project : Project) (kind : EventKind) (principal : String) :
    Endures w fails tries reads true
      (openAssessment project kind principal : Action (ω × Nat) Int) :=
  .bind_writing (.ask rfl fun hw => by cases hw) fun _ => .ofExcept _

theorem assessmentFor_endures (project : Project) (kind : EventKind) (asked : Option Int)
    (principal : String) :
    Endures w fails tries reads true
      (assessmentFor project kind asked principal : Action (ω × Nat) Int) := by
  cases asked with
  | some id => exact checkAssessment_endures id principal
  | none => exact openAssessment_endures project kind principal

theorem lotLinks_endures (project : Project) :
    Endures w fails (Patience.calls s.attempts) true writes (lotLinks s project) :=
  .bind (.ask rfl fun _ => id) fun _ => .bind (.ofExcept _) fun _ => links_endures s _

/-- The links of the lot are read before the record is sent. -/
theorem createRecord_endures (row : Row) {project : Action (ω × Nat) Project}
    (hproject : Endures w fails (Patience.calls s.attempts) true false project)
    (principal : String) :
    Endures w fails (Patience.calls s.attempts) true true
      (createRecord s row project principal) :=
  .bind (findUser_endures principal) fun _ => .bind (.ask rfl fun _ => id) fun _ =>
    .bind (.ofExcept _) fun _ => .bind hproject fun _ => .bind (lotLinks_endures s _) fun _ =>
      .bind (.ofExcept _) fun _ => .bind_writing (writeRecord_endures _ _) fun _ => .pure _

theorem openEvent_endures (project : Project) (row : Row) (kind : EventKind) (asked : Option Int)
    (principal : String) :
    Endures w fails (Patience.calls s.attempts) true true
      (openEvent s project row kind asked principal) := by
  unfold openEvent
  split
  · exact .bind (lotLinks_endures s _) fun _ =>
      .bind_writing (assessmentFor_endures _ _ _ _) fun _ => insert_endures _
  · exact .bind_writing (createRecord_endures s row (.pure project) principal) fun _ =>
      insert_endures _
  · split
    · exact .bind (checkAssessment_endures _ _) fun _ => insert_endures _
    · exact insert_endures _

/-! ### Changing -/

/-- Only a new assessment among the edits changes something before they are saved. -/
theorem stageEdits_endures (before : Row) (edit : EventEdit) (principal : String)
    (h : writes = false → needsAssessment before edit = false) :
    Endures w fails tries reads writes
      (stageEdits before edit principal : Action (ω × Nat) Row) := by
  have checked : ∀ row : Row, Endures w fails tries reads false
      (assessmentAfter row edit principal : Action (ω × Nat) (Option Int)) := by
    intro row
    unfold assessmentAfter
    split
    · exact .bind (checkAssessment_endures _ _) fun _ => .pure _
    · exact .pure _
  unfold stageEdits
  refine .bind (stage_endures _) fun _ => .bind (.ofExcept _) fun row => .bind (stage_endures _)
    fun _ => .bind (checked row) fun assessment => .bind (stage_endures _) fun _ => ?_
  have hneeds : needsAssessment (renamed before edit) edit = needsAssessment before edit := rfl
  split
  · rename_i hneeded
    cases writes with
    | false =>
        rw [hneeds, h rfl] at hneeded
        cases hneeded
    | true =>
        exact .bind (projectOf_endures _) fun _ => .bind (.ofExcept _) fun _ =>
          .bind_writing (openAssessment_endures _ _ _) fun _ => .bind (stage_endures _) fun _ =>
            .pure _
  · exact .pure _

/-- The kind that was asked for is the kind of the staged row. -/
theorem stageEdits_kind {w : Surroundings ω} (before : Row) {edit : EventEdit} {kind : EventKind}
    (hkind : edit.kind = some kind) (principal : String) :
    Triple w (fun _ => True) (stageEdits before edit principal)
      (fun row _ => row.kind = kind.name) (fun _ _ => True) := by
  have staged : ∀ {row : Row} {f : Unit → Action ω Row},
      Triple w (fun _ => True) (f ()) (fun row _ => row.kind = kind.name) (fun _ _ => True) →
      Triple w (fun _ => True) (stage row >>= f) (fun row _ => row.kind = kind.name)
        (fun _ _ => True) :=
    fun h => .bind (.edit fun _ _ => trivial) fun _ => h
  have anything : ∀ {β : Type} (x : Action ω β),
      Triple w (fun _ => True) x (fun _ _ => True) (fun _ _ => True) := by
    intro β x r _
    rcases x w r with ⟨_ | _, _⟩ <;> trivial
  unfold stageEdits
  apply staged
  apply Triple.bind (Triple.ofExcept_knowing.mono_fail fun _ _ _ => trivial)
  intro row
  apply Triple.of_fact
  intro hrow
  obtain ⟨name, rfl, ⟨hnone, -⟩ | ⟨k, hk, -, -, rfl⟩⟩ := withKind_eq_ok hrow
  · rw [hkind] at hnone
    cases hnone
  rw [hkind] at hk
  cases hk
  apply staged
  apply Triple.bind (anything _)
  intro assessment
  apply staged
  split
  · apply Triple.bind (anything _)
    intro project
    apply Triple.bind (anything _)
    intro kind
    apply Triple.bind (anything _)
    intro id
    apply staged
    exact Triple.pure fun _ _ => rfl
  · exact Triple.pure fun _ _ => rfl

/-- A record is created only behind the links of its lot. -/
theorem updateRecord_endures (before row : Row) (edit : EventEdit) (principal : String) :
    Endures w fails (Patience.calls s.attempts) true true
      (updateRecord s before row edit principal) := by
  refine .bind (.ofExcept _) fun kind => ?_
  split
  · split
    · exact .bind_writing (createRecord_endures s row (projectOf_endures row) principal) fun _ =>
        .bind (stage_endures _) fun _ => .pure _
    · exact .pure _
  · split
    · exact .bind_writing (writeRecord_endures _ _) fun _ => .pure _
    · exact .pure _

/-- No record is created for a kind that the platform does not own, so nothing is read. -/
theorem updateRecord_endures_of_unowned (before : Row) {row : Row} {kind : EventKind}
    (hkind : row.kind = kind.name) (howner : kind.owner ≠ .platform) (edit : EventEdit)
    (principal : String) :
    Endures w fails tries false true (updateRecord s before row edit principal) := by
  unfold updateRecord
  rw [ofName_eq_ok_iff.2 hkind, Action.ofExcept_ok, pure_bind]
  split
  · rw [if_neg howner]
    exact .pure _
  · split
    · exact .bind_writing (writeRecord_endures _ _) fun _ => .pure _
    · exact .pure _

theorem saveEdits_endures (row : Row) (edit : EventEdit) (principal : String) :
    Endures w fails tries reads true
      (saveEdits row edit principal : Action (ω × Nat) Row) := by
  unfold saveEdits
  split
  · exact .bind (stage_endures _) fun _ => .bind_writing save_endures fun _ => .pure _
  · exact .pure _

theorem updateEvent_endures (project : Int) (event : String) (edit : EventEdit)
    (principal : String) :
    Endures w fails (Patience.calls s.attempts) true true
      (updateEvent s project event edit principal) := by
  refine .bind (findEvent_endures s _ _) fun before => ?_
  have closing : ∀ row : Row, Endures w fails (Patience.calls s.attempts) false true (do
      let row ← saveEdits row edit principal
      let shown ← statusOf s row principal
      Action.ofExcept (summary row shown.1)) :=
    fun row => .bind_writing (saveEdits_endures row edit principal) fun _ =>
      .bind (statusOf_endures s _ _) fun _ => .ofExcept _
  cases hneeds : needsAssessment before edit with
  | false =>
      exact .bind (stageEdits_endures before edit principal fun _ => hneeds) fun row =>
        .bind_writing (.onFailure (updateRecord_endures s before row edit principal) fun _ => rfl)
          closing
  | true =>
      -- A new assessment belongs to a kind without a record, so nothing is read behind it.
      obtain ⟨kind, hkind, howner⟩ : ∃ kind, edit.kind = some kind ∧ kind.owner = .assessment := by
        unfold needsAssessment at hneeds
        simp only [Bool.and_eq_true, Option.any_eq_true, beq_iff_eq] at hneeds
        exact hneeds.1.1
      refine .bind_knowing (stageEdits_endures before edit principal fun hw => by cases hw)
        fun w' r row m hrow => ?_
      have hrowKind : row.kind = kind.name :=
        (stageEdits_kind before hkind principal).of_ok trivial hrow
      have hunowned : kind.owner ≠ .platform := by
        rw [howner]
        decide
      exact .bind_writing (.onFailure
        (updateRecord_endures_of_unowned s before hrowKind hunowned edit principal) fun _ => rfl)
        closing

/-! ## All operations -/

theorem createEvent_endures (project : Int) (request : NewEvent) (downSelected : Bool)
    (principal : String) :
    Endures w fails (Patience.calls s.attempts) true true
      (createEvent s project request downSelected principal) :=
  .bind (findProject_endures s _) fun _ => .bind (.ofExcept _) fun _ =>
    .bind_writing (openEvent_endures s _ _ _ _ _) fun _ => .ofExcept _

theorem criteriaOf_endures (row : Row) (project : Int) (event : String) :
    Endures w fails tries reads writes
      (criteriaOf row project event : Action (ω × Nat) (List (List (RawText × Json)))) := by
  refine .bind (.ofExcept _) fun kind => ?_
  split
  · refine .bind (.ask rfl fun _ => id) fun _ => .bind (.ofExcept _) fun criteria => ?_
    split
    · exact .pure _
    · exact .fail _
  · exact .pure _

theorem getEvent_endures (project : Int) (event principal : String) :
    Endures w fails (Patience.calls s.attempts) true writes (getEvent s project event principal) :=
  .bind (findEvent_endures s _ _) fun _ => .bind (statusOf_endures s _ _) fun _ =>
    .bind (criteriaOf_endures _ _ _) fun _ => .bind (.ofExcept _) fun _ => .pure _

theorem summaries_endures (principal : String) (rows : List Row) :
    Endures w fails tries reads writes (summaries s principal rows) := by
  induction rows generalizing writes with
  | nil => exact .pure []
  | cons row rest ih =>
      exact .bind (statusOf_endures s _ _) fun _ => .bind (.ofExcept _) fun _ => .bind ih fun _ =>
        .pure _

theorem listEvents_endures (project : Int) (principal : String) :
    Endures w fails (Patience.calls s.attempts) true writes (listEvents s project principal) :=
  .bind (findProject_endures s _) fun _ => .bind (findEvents_endures s _) fun _ =>
    summaries_endures s _ _

theorem publishEvent_endures (project : Int) (event : String) (dates : Publication)
    (principal : String) :
    Endures w fails (Patience.calls s.attempts) true true
      (publishEvent s project event dates principal) := by
  refine .bind (findUser_endures _) fun user => .bind (findEvent_endures s _ _) fun row => ?_
  split
  · exact .fail _
  · refine .bind (statusOf_endures s _ _) fun shown => ?_
    split
    split
    · exact .bind (.ask rfl fun _ => id) fun _ => .bind (.ofExcept _) fun _ =>
        .bind_writing (publishRecord_endures _) fun _ => .pure _
    · exact .fail _

theorem perform_endures (call : Call) :
    Endures w fails (Patience.calls s.attempts) true true (call.perform s) := by
  cases call with
  | createEvent => exact createEvent_endures s _ _ _ _
  | updateEvent => exact updateEvent_endures s _ _ _ _
  | getEvent => exact getEvent_endures s _ _ _
  | listEvents => exact listEvents_endures s _ _
  | publishEvent => exact publishEvent_endures s _ _ _ _
  | listSuppliers => exact .bind (findEvent_endures s _ _) fun _ => suppliersOf_endures s _
  | addSuppliers =>
      exact .bind (findEvent_endures s _ _) fun _ =>
        .bind_writing (addSuppliersTo_endures s _ _ _ _) fun _ => .pure _
  | deleteSupplier =>
      exact .bind (findEvent_endures s _ _) fun _ => deleteSupplierOf_endures s _ _ _
  | listDocuments => exact .bind (findEvent_endures s _ _) fun _ => documentsOf_endures s _
  | uploadDocument => exact .bind (findEvent_endures s _ _) fun _ => uploadTo_endures s _ _
  | getDocument => exact .bind (findEvent_endures s _ _) fun _ => fileOf_endures s _ _

end

/-- Reads that fail for a while are noticed by nobody but the store: as long as no read call fails
at each of its tries, the result, all that is asked beyond the store, and the table are those of the
run without an outage. If one of the read calls of that run does, the call fails for want of the
store: the saved table is as it was, and no assessment, no commit and no request for a change was
asked for. -/
theorem transient_reads_unseen (s : Settings) (w : Surroundings ω) (fails : Outage) (saved : Store)
    (memory : ω) (call : Call) :
    let tries := Patience.calls s.attempts
    let calm := call.visit s (w.failing .never) saved (memory, 0)
    let run := call.visit s (w.failing fails) saved (memory, 0)
    ((∀ n < readsOf calm.2.asked, ¬fails.Fails tries n) →
      run.1 = calm.1 ∧ outward run.2.asked = outward calm.2.asked ∧
        run.2.session = calm.2.session ∧ run.2.memory.1 = calm.2.memory.1) ∧
    ((∃ n < readsOf calm.2.asked, fails.Fails tries n) →
      run.1 = .error .storeUnavailable ∧ run.2.session.saved = saved ∧
        ∀ q ∈ run.2.asked, ¬q.Alters) := by
  intro tries calm run
  let start : Run (ω × Nat) := .start saved (memory, 0)
  have hendures : Endures w fails tries true true (call.perform s) := perform_endures s call
  obtain ⟨k, held⟩ := hendures start start (.refl start)
  have hreads : readsOf calm.2.asked = k := held.count.trans (Nat.zero_add k)
  have hended : Parted start calm run (fails.passed? tries k 0) := held.ended
  rw [hreads]
  generalize hpassed : fails.passed? tries k 0 = passed at hended
  cases hended with
  | kept htold halike =>
      refine ⟨fun _ => ⟨htold, halike.outward, halike.session, halike.memory⟩, fun hfails => ?_⟩
      rw [Outage.passed?_eq_none_iff.2 hfails] at hpassed
      cases hpassed
  | cut htold huntouched =>
      refine ⟨fun hanswered => ?_, fun _ => ⟨htold, huntouched.saved, ?_⟩⟩
      · obtain ⟨n, hn, hfails⟩ := Outage.passed?_eq_none_iff.1 hpassed
        exact absurd hfails (hanswered n hn)
      · obtain ⟨qs, hqs, hnone⟩ := huntouched.asked
        rw [hqs]
        exact hnone

/-! ## Two read calls, of which the second has to wait -/

/-- A scene in which the record of an event can be created and then shown. -/
def lotScene : Scene where
  users := [("buyer", some "user_42")]
  lots := [("RM6170/2", ["GB-COH-111"])]
  now := default
  replies := [
    .ofReceipt (benchReceipt ("rfq_1", "itt_1")),
    .ofJson (.obj [("dataList", .arr [.obj [("rfxSetting", .obj [("statusCode", .int 100)])]])])]

/-- A bare event, and the one supplier of its lot. -/
def linkedStore : Store :=
  { bareStore with links := [⟨"GB-COH-111", 1001⟩] }

/-- The bare event becomes a request for information: two read calls. -/
def rfiCall : Call :=
  .updateEvent 1 "ocds-b5fd17-1" { kind := some .rfi } "buyer"

/-- The second of two read calls is answered at the third attempt. -/
def briefOutage : Outage :=
  fun n => n == 1 || n == 2

/-- The second of two read calls is answered at none of three attempts. -/
def longOutage : Outage :=
  fun n => n == 1 || n == 2 || n == 3

theorem rfiCall_reads :
    readsOf (rfiCall.visit shownSettings (Scene.surroundings.failing .never) linkedStore
      (lotScene, 0)).2.asked = 2 := by
  decide +kernel

theorem briefOutage_answers : ∀ n < 2, ¬briefOutage.Fails 3 n := by
  intro n hn hfails
  have hnone : briefOutage.passed? 3 2 0 = none := Outage.passed?_eq_none_iff.2 ⟨n, hn, hfails⟩
  cases hnone

theorem longOutage_fails : ∃ n < 2, longOutage.Fails 3 n :=
  Outage.passed?_eq_none_iff.1 rfl

/-- An event becomes a request for information. The second read call is answered at the third
attempt, or is not and the update is given up behind the edits that were staged. -/
theorem transient_reads_unseen_bench :
    let visit := fun fails : Outage =>
      rfiCall.visit shownSettings (Scene.surroundings.failing fails) linkedStore (lotScene, 0)
    (visit .never).1.isOk = true ∧ (visit briefOutage).1 = (visit .never).1 ∧
      (visit briefOutage).2.session = (visit .never).2.session ∧
      (visit longOutage).1 = .error .storeUnavailable ∧
      (visit longOutage).2.session.saved = linkedStore ∧
      ∀ q ∈ (visit longOutage).2.asked, ¬q.Alters := by
  intro visit
  obtain ⟨hunseen, -⟩ := transient_reads_unseen shownSettings Scene.surroundings briefOutage
    linkedStore lotScene rfiCall
  obtain ⟨-, hcut⟩ := transient_reads_unseen shownSettings Scene.surroundings longOutage
    linkedStore lotScene rfiCall
  rw [rfiCall_reads] at hunseen hcut
  obtain ⟨htold, -, hsession, -⟩ := hunseen briefOutage_answers
  obtain ⟨hfailed, hsaved, hharmless⟩ := hcut longOutage_fails
  exact ⟨by decide +kernel, htold, hsession, hfailed, hsaved, hharmless⟩

end Desk
end TenderDesk
