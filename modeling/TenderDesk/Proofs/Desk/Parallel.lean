import TenderDesk.Desk.Call
import TenderDesk.Proofs.Desk.Records

/-!
# Parallel — a run depends on its surroundings through their answers alone

* `Surroundings.AnswersLike`: two surroundings, each with its own memory, give the same answers to
  whatever they are asked from now on.
* `Level` says that two runs stand at the same point: the sessions are the same, the surroundings
  answer alike, and the same was asked since the two began. What was asked before that may differ.
* `Parallel` says of an action that it keeps two runs level and tells both the same.
  `perform_parallel` collects the operations.
-/

namespace TenderDesk
namespace Desk

open Sourcing Document

variable {ω ω' α β : Type} {w : Surroundings ω} {w' : Surroundings ω'}

/-! ## Answers -/

/-- Two surroundings give the same answers from now on. -/
def Surroundings.AnswersLike (w : Surroundings ω) (m : ω) (w' : Surroundings ω') (m' : ω') : Prop :=
  ∀ qs q, (w q (w.after m qs)).1 = (w' q (w'.after m' qs)).1

namespace Surroundings.AnswersLike

variable {m : ω} {m' : ω'}

theorem refl (w : Surroundings ω) (m : ω) : w.AnswersLike m w m :=
  fun _ _ => rfl

theorem answer (h : w.AnswersLike m w' m') (q : Question) : (w q m).1 = (w' q m').1 :=
  h [] q

theorem next (h : w.AnswersLike m w' m') (q : Question) : w.AnswersLike (w q m).2 w' (w' q m').2 :=
  fun qs p => h (q :: qs) p

end Surroundings.AnswersLike

/-! ## Two runs side by side -/

/-- Two runs stand at the same point since the questions `before` and `before'`. -/
structure Level (w : Surroundings ω) (w' : Surroundings ω') (before before' : List Question)
    (r : Run ω) (r' : Run ω') : Prop where
  session : r.session = r'.session
  answers : w.AnswersLike r.memory w' r'.memory
  asked : ∃ qs, r.asked = before ++ qs ∧ r'.asked = before' ++ qs

/-- Two actions tell the same, and leave runs level that were level before. -/
def Parallel (w : Surroundings ω) (w' : Surroundings ω') (x : Action ω α) (x' : Action ω' α) :
    Prop :=
  ∀ before before' r r', Level w w' before before' r r' →
    (x w r).1 = (x' w' r').1 ∧ Level w w' before before' (x w r).2 (x' w' r').2

namespace Parallel

theorem pure (a : α) : Parallel w w' (Pure.pure a) (Pure.pure a) :=
  fun _ _ _ _ h => ⟨rfl, h⟩

theorem fail (failure : Failure) :
    Parallel w w' (Action.fail failure : Action ω α) (Action.fail failure) :=
  fun _ _ _ _ h => ⟨rfl, h⟩

theorem ofExcept (e : Except Failure α) :
    Parallel w w' (Action.ofExcept e) (Action.ofExcept e) := by
  cases e with
  | ok a => exact pure a
  | error failure => exact fail failure

theorem ofOption (failure : Failure) (o : Option α) :
    Parallel w w' (Action.ofOption failure o) (Action.ofOption failure o) := by
  cases o with
  | some a => exact pure a
  | none => exact fail failure

theorem store : Parallel w w' Action.store Action.store :=
  fun _ _ _ _ h => ⟨congrArg (fun σ : Session => Except.ok σ.working) h.session, h⟩

theorem edit (f : Session → Session) : Parallel w w' (Action.edit f) (Action.edit f) :=
  fun _ _ _ _ h => ⟨rfl, congrArg f h.session, h.answers, h.asked⟩

theorem unblocked : Parallel w w' Action.unblocked Action.unblocked := by
  intro before before' r r' h
  have hblocked := congrArg Session.blocked h.session
  cases hr : r.session.blocked with
  | none =>
      rw [Action.unblocked_of_open hr, Action.unblocked_of_open (hblocked.symm.trans hr)]
      exact ⟨rfl, h⟩
  | some message =>
      rw [Action.unblocked_of_blocked hr, Action.unblocked_of_blocked (hblocked.symm.trans hr)]
      exact ⟨rfl, h⟩

theorem ask (q : Question) : Parallel w w' (Action.ask q) (Action.ask q) := by
  intro before before' r r' h
  obtain ⟨qs, hr, hr'⟩ := h.asked
  refine ⟨congrArg Except.ok (h.answers.answer q), h.session, h.answers.next q, qs ++ [q], ?_, ?_⟩
  · -- The question is the last one on both sides.
    rw [Action.ask_apply, hr, List.append_assoc]
  · rw [Action.ask_apply, hr', List.append_assoc]

theorem bind {x : Action ω α} {x' : Action ω' α} {f : α → Action ω β} {f' : α → Action ω' β}
    (hx : Parallel w w' x x') (hf : ∀ a, Parallel w w' (f a) (f' a)) :
    Parallel w w' (x >>= f) (x' >>= f') := by
  intro before before' r r' h
  obtain ⟨htold, hlevel⟩ := hx before before' r r' h
  rw [Action.bind_apply, Action.bind_apply]
  rcases hr : x w r with ⟨failure | a, m⟩ <;> rcases hr' : x' w' r' with ⟨failure' | a', m'⟩ <;>
    rw [hr, hr'] at htold hlevel <;> cases htold
  · -- Both failed, and the second action is run by neither.
    exact ⟨rfl, hlevel⟩
  · exact hf a before before' m m' hlevel

theorem map {x : Action ω α} {x' : Action ω' α} (f : α → β) (hx : Parallel w w' x x') :
    Parallel w w' (f <$> x) (f <$> x') :=
  hx.bind fun a => pure (f a)

theorem attempt {x : Action ω α} {x' : Action ω' α} (hx : Parallel w w' x x') :
    Parallel w w' x.attempt x'.attempt := by
  intro before before' r r' h
  obtain ⟨htold, hlevel⟩ := hx before before' r r' h
  exact ⟨congrArg Except.ok htold, hlevel⟩

theorem onFailure {x : Action ω α} {x' : Action ω' α} (hx : Parallel w w' x x')
    (f : Session → Session) : Parallel w w' (x.onFailure f) (x'.onFailure f) := by
  intro before before' r r' h
  obtain ⟨htold, hlevel⟩ := hx before before' r r' h
  unfold Action.onFailure
  rcases hr : x w r with ⟨failure | a, m⟩ <;> rcases hr' : x' w' r' with ⟨failure' | a', m'⟩ <;>
    rw [hr, hr'] at htold hlevel <;> cases htold
  · exact ⟨rfl, congrArg f hlevel.session, hlevel.answers, hlevel.asked⟩
  · exact ⟨rfl, hlevel⟩

end Parallel

open Parallel

/-! ## Requests -/

section

variable (p : Platform)

theorem ofPlatform_parallel (e : Except PlatformFault α) :
    Parallel w w' (ofPlatform e) (ofPlatform e) := by
  cases e with
  | ok a => exact pure a
  | error fault => exact fail _

theorem exchange_parallel (request : Request) :
    Parallel w w' (exchange p request) (exchange p request) :=
  (ofExcept _).bind fun _ => ask _

theorem exchangeJson_parallel (request : Request) :
    Parallel w w' (exchangeJson p request) (exchangeJson p request) :=
  (exchange_parallel p request).bind fun _ => ofExcept _

theorem writeRecord_parallel (command : Command) (rfx : Rfx) :
    Parallel w w' (writeRecord p command rfx) (writeRecord p command rfx) :=
  (exchangeJson_parallel p _).bind fun _ => ofPlatform_parallel _

theorem uploadFile_parallel (fileName : String) (data : List UInt8) (change : Change) :
    Parallel w w' (uploadFile p fileName data change) (uploadFile p fileName data change) :=
  (exchangeJson_parallel p _).bind fun _ => ofPlatform_parallel _

theorem publishRecord_parallel (order : PublishOrder) :
    Parallel w w' (publishRecord p order) (publishRecord p order) :=
  (exchangeJson_parallel p _).bind fun _ => ofPlatform_parallel _

theorem fetchRecord_parallel (id : String) :
    Parallel w w' (fetchRecord p id) (fetchRecord p id) :=
  (exchangeJson_parallel p _).bind fun _ => ofExcept _

theorem fetchFile_parallel (key : Key) : Parallel w w' (fetchFile p key) (fetchFile p key) :=
  (exchange_parallel p _).bind fun _ => ofExcept _

end

/-! ## The table -/

theorem lookOnce_parallel (words : List Int) (read : Store → α) :
    Parallel w w' (lookOnce words read) (lookOnce words read) := by
  refine (ask .lookup).bind fun answered => ?_
  cases answered with
  | false => exact fail _
  | true =>
      refine store.bind fun saved => ?_
      split
      · exact (edit _).bind fun _ => fail _
      · split
        · exact pure _
        · exact fail _

theorem persist_parallel {x : Action ω α} {x' : Action ω' α} (hx : Parallel w w' x x')
    (transient : α → Bool) (again made : Nat) :
    Parallel w w'
      (Patience.attemptFrom Patience.pauseAfter transient (fun n => Action.ask (.pause n)) x again
        made)
      (Patience.attemptFrom Patience.pauseAfter transient (fun n => Action.ask (.pause n)) x' again
        made) := by
  induction again generalizing made with
  | zero => exact hx
  | succ again ih =>
      refine hx.bind fun outcome => ?_
      dsimp only
      split
      · exact (ask (.pause _)).bind fun _ => ih (made + 1)
      · exact pure outcome

theorem stage_parallel (row : Row) :
    Parallel w w' (stage row : Action ω Unit) (stage row : Action ω' Unit) :=
  edit _

theorem commit_parallel :
    Parallel w w' (commit : Action ω Verdict) (commit : Action ω' Verdict) :=
  (ask .commit).bind fun _ => store.bind fun _ => pure _

theorem save_parallel : Parallel w w' (save : Action ω Unit) (save : Action ω' Unit) := by
  refine commit_parallel.bind fun v => ?_
  cases v with
  | done => exact edit _
  | refused failure => exact (edit _).bind fun _ => fail _
  | unsent failure => exact (edit _).bind fun _ => fail _

theorem insert_parallel (row : Row) :
    Parallel w w' (insert row : Action ω Row) (insert row : Action ω' Row) := by
  refine store.bind fun _ => (edit _).bind fun _ => commit_parallel.bind fun v => ?_
  cases v with
  | done => exact (edit _).bind fun _ => pure _
  | refused failure => exact (edit _).bind fun _ => fail _
  | unsent failure => exact (edit _).bind fun _ => fail _

theorem projectOf_parallel (row : Row) :
    Parallel w w' (projectOf row : Action ω Project) (projectOf row : Action ω' Project) :=
  store.bind fun _ => ofOption _ _

section

variable (s : Settings)

theorem look_parallel (words : List Int) (read : Store → α) :
    Parallel w w' (look s words read) (look s words read) := by
  unfold look
  simp only [Patience.retry_standard]
  refine unblocked.bind fun _ => ?_
  exact (persist_parallel (lookOnce_parallel words read).attempt _ _ _).bind fun _ => ofExcept _

theorem findProject_parallel (project : Int) :
    Parallel w w' (findProject s project) (findProject s project) :=
  (look_parallel s _ _).bind fun _ => ofOption _ _

theorem findEvent_parallel (project : Int) (event : String) :
    Parallel w w' (findEvent s project event) (findEvent s project event) :=
  (ofExcept _).bind fun _ => (look_parallel s _ _).bind fun _ => ofOption _ _

theorem links_parallel (organisations : List String) :
    Parallel w w' (links s organisations) (links s organisations) := by
  unfold links
  extract_lets distinct rest rest'
  -- What is made of the links does not depend on where they come from.
  have known : ∀ found : List Link, Parallel w w' (rest found) (rest' found) := by
    intro found
    dsimp only [rest, rest']
    split
    · exact pure found
    · exact fail _
  split
  · exact (pure []).bind known
  · exact (look_parallel s _ _).bind known

theorem findLink_parallel (organisation : String) :
    Parallel w w' (findLink s organisation) (findLink s organisation) :=
  (look_parallel s _ _).bind fun _ => ofOption _ _

theorem findLinkOfCompany_parallel (company : Int) :
    Parallel w w' (findLinkOfCompany s company) (findLinkOfCompany s company) :=
  (look_parallel s _ _).bind fun _ => ofOption _ _

/-! ## Suppliers -/

theorem supplierRefs_parallel (record : String) (suppliers : List Supplier) :
    Parallel w w' (supplierRefs s record suppliers) (supplierRefs s record suppliers) := by
  have one : ∀ supplier : Supplier,
      Parallel w w' (supplierRef s record supplier) (supplierRef s record supplier) := by
    intro supplier
    unfold supplierRef
    split
    · exact fail _
    · exact (findLinkOfCompany_parallel s _).bind fun _ => pure _
  induction suppliers with
  | nil => exact pure []
  | cons supplier rest ih => exact (one supplier).bind fun _ => ih.bind fun _ => pure _

theorem suppliersOf_parallel (row : Row) :
    Parallel w w' (suppliersOf s row) (suppliersOf s row) := by
  refine (ofExcept _).bind fun k => ?_
  cases k with
  | table => exact pure _
  | platform => exact (fetchRecord_parallel _ _).bind fun _ => supplierRefs_parallel s _ _

theorem addSuppliersTo_parallel (row : Row) (organisations : List String) (overwrite : Bool)
    (principal : String) :
    Parallel w w' (addSuppliersTo s row organisations overwrite principal)
      (addSuppliersTo s row organisations overwrite principal) := by
  refine (links_parallel s _).bind fun _ => (ofExcept _).bind fun k => ?_
  cases k with
  | table => exact (stage_parallel _).bind fun _ => save_parallel
  | platform => exact (writeRecord_parallel _ _ _).bind fun _ => pure _

theorem deleteSelection_parallel (row : Row) (organisation principal : String) :
    Parallel w w' (deleteSelection row organisation principal : Action ω Unit)
      (deleteSelection row organisation principal) := by
  unfold deleteSelection
  split
  · exact (stage_parallel _).bind fun _ => save_parallel
  · exact fail _

theorem deleteListed_parallel (row : Row) (link : Link) :
    Parallel w w' (deleteListed s row link) (deleteListed s row link) := by
  refine (fetchRecord_parallel _ _).bind fun record => ?_
  dsimp only
  split
  · exact fail _
  · exact (writeRecord_parallel _ _ _).bind fun _ => pure _

theorem deleteSupplierOf_parallel (row : Row) (organisation principal : String) :
    Parallel w w' (deleteSupplierOf s row organisation principal)
      (deleteSupplierOf s row organisation principal) := by
  refine (findLink_parallel s _).bind fun _ => (ofExcept _).bind fun k => ?_
  cases k with
  | table => exact deleteSelection_parallel _ _ _
  | platform => exact deleteListed_parallel s _ _

/-! ## Documents -/

theorem documentsOf_parallel (row : Row) :
    Parallel w w' (documentsOf s row) (documentsOf s row) :=
  (ofExcept _).bind fun _ => (fetchRecord_parallel _ _).bind fun _ => ofExcept _

theorem uploadTo_parallel (row : Row) (upload : Upload) :
    Parallel w w' (uploadTo s row upload) (uploadTo s row upload) :=
  (ofExcept _).bind fun _ => (ofExcept _).bind fun _ => (documentsOf_parallel s row).bind fun _ =>
    (ofExcept _).bind fun _ => (uploadFile_parallel _ _ _ _).bind fun _ =>
      (documentsOf_parallel s row).bind fun _ => ofOption _ _

theorem fileOf_parallel (row : Row) (id : String) :
    Parallel w w' (fileOf s row id) (fileOf s row id) :=
  (ofExcept _).bind fun _ => (ofExcept _).bind fun _ => fetchFile_parallel _ _

/-! ## Events -/

theorem statusOf_parallel (row : Row) (principal : String) :
    Parallel w w' (statusOf s row principal) (statusOf s row principal) := by
  unfold statusOf
  split
  · exact (fetchRecord_parallel _ _).bind fun _ => (ofPlatform_parallel _).bind fun _ => pure _
  · split
    · exact (ask (.assessment _ _)).bind fun _ => (ofExcept _).bind fun _ =>
        (ofPlatform_parallel _).bind fun _ => pure _
    · exact pure _

theorem findUser_parallel (principal : String) :
    Parallel w w' (findUser principal : Action ω String) (findUser principal) := by
  refine (ask (.buyerUser principal)).bind fun _ => (ofExcept _).bind fun user => ?_
  cases user with
  | none => exact fail _
  | some user =>
      dsimp only
      split
      · exact fail _
      · exact pure _

theorem checkAssessment_parallel (id : Int) (principal : String) :
    Parallel w w' (checkAssessment id principal : Action ω Int) (checkAssessment id principal) :=
  (ask (.assessment _ _)).bind fun _ => (ofExcept _).bind fun _ => pure _

theorem openAssessment_parallel (project : Project) (kind : EventKind) (principal : String) :
    Parallel w w' (openAssessment project kind principal : Action ω Int)
      (openAssessment project kind principal) :=
  (ask (.newAssessment _ _ _ _)).bind fun _ => ofExcept _

theorem assessmentFor_parallel (project : Project) (kind : EventKind) (asked : Option Int)
    (principal : String) :
    Parallel w w' (assessmentFor project kind asked principal : Action ω Int)
      (assessmentFor project kind asked principal) := by
  cases asked with
  | some id => exact checkAssessment_parallel id principal
  | none => exact openAssessment_parallel project kind principal

theorem lotLinks_parallel (project : Project) :
    Parallel w w' (lotLinks s project) (lotLinks s project) :=
  (ask (.lotSuppliers _ _)).bind fun _ => (ofExcept _).bind fun _ => links_parallel s _

theorem createRecord_parallel (row : Row) {project : Action ω Project}
    {project' : Action ω' Project} (hproject : Parallel w w' project project')
    (principal : String) :
    Parallel w w' (createRecord s row project principal) (createRecord s row project' principal) :=
  (findUser_parallel principal).bind fun _ => (ask (.buyerCompany _)).bind fun _ =>
    (ofExcept _).bind fun _ => hproject.bind fun _ => (lotLinks_parallel s _).bind fun _ =>
      (ofExcept _).bind fun _ => (writeRecord_parallel _ _ _).bind fun _ => pure _

theorem openEvent_parallel (project : Project) (row : Row) (kind : EventKind) (asked : Option Int)
    (principal : String) :
    Parallel w w' (openEvent s project row kind asked principal)
      (openEvent s project row kind asked principal) := by
  unfold openEvent
  split
  · exact (lotLinks_parallel s _).bind fun _ => (assessmentFor_parallel _ _ _ _).bind fun _ =>
      insert_parallel _
  · exact (createRecord_parallel s row (pure project) principal).bind fun _ => insert_parallel _
  · split
    · exact (checkAssessment_parallel _ _).bind fun _ => insert_parallel _
    · exact insert_parallel _

theorem stageEdits_parallel (before : Row) (edit : EventEdit) (principal : String) :
    Parallel w w' (stageEdits before edit principal : Action ω Row)
      (stageEdits before edit principal) := by
  have checked : ∀ row : Row, Parallel w w' (assessmentAfter row edit principal)
      (assessmentAfter row edit principal) := by
    intro row
    unfold assessmentAfter
    split
    · exact (checkAssessment_parallel _ _).map _
    · exact pure _
  refine (stage_parallel _).bind fun _ => (ofExcept _).bind fun row => (stage_parallel _).bind
    fun _ => (checked row).bind fun assessment => (stage_parallel _).bind fun _ => ?_
  split
  · exact (projectOf_parallel _).bind fun _ => (ofExcept _).bind fun _ =>
      (openAssessment_parallel _ _ _).bind fun _ => (stage_parallel _).bind fun _ => pure _
  · exact pure _

theorem updateRecord_parallel (before row : Row) (edit : EventEdit) (principal : String) :
    Parallel w w' (updateRecord s before row edit principal)
      (updateRecord s before row edit principal) := by
  refine (ofExcept _).bind fun kind => ?_
  split
  · split
    · exact (createRecord_parallel s row (projectOf_parallel row) principal).bind fun _ =>
        (stage_parallel _).bind fun _ => pure _
    · exact pure _
  · split
    · exact (writeRecord_parallel _ _ _).bind fun _ => pure _
    · exact pure _

theorem saveEdits_parallel (row : Row) (edit : EventEdit) (principal : String) :
    Parallel w w' (saveEdits row edit principal : Action ω Row) (saveEdits row edit principal) := by
  unfold saveEdits
  split
  · exact (stage_parallel _).bind fun _ => save_parallel.bind fun _ => pure _
  · exact pure _

theorem updateEvent_parallel (project : Int) (event : String) (edit : EventEdit)
    (principal : String) :
    Parallel w w' (updateEvent s project event edit principal)
      (updateEvent s project event edit principal) :=
  (findEvent_parallel s _ _).bind fun before => (stageEdits_parallel before edit principal).bind
    fun row => ((updateRecord_parallel s before row edit principal).onFailure _).bind fun _ =>
      (saveEdits_parallel _ edit principal).bind fun _ => (statusOf_parallel s _ principal).bind
        fun _ => ofExcept _

theorem criteriaOf_parallel (row : Row) (project : Int) (event : String) :
    Parallel w w' (criteriaOf row project event : Action ω (List (List (RawText × Json))))
      (criteriaOf row project event) := by
  refine (ofExcept _).bind fun kind => ?_
  split
  · refine (ask (.criteria _ _)).bind fun _ => (ofExcept _).bind fun criteria => ?_
    split
    · exact pure _
    · exact fail _
  · exact pure _

theorem summaries_parallel (principal : String) (rows : List Row) :
    Parallel w w' (summaries s principal rows) (summaries s principal rows) := by
  induction rows with
  | nil => exact pure []
  | cons row rest ih =>
      exact (statusOf_parallel s _ _).bind fun _ => (ofExcept _).bind fun _ => ih.bind fun _ =>
        pure _

theorem publishEvent_parallel (project : Int) (event : String) (dates : Publication)
    (principal : String) :
    Parallel w w' (publishEvent s project event dates principal)
      (publishEvent s project event dates principal) := by
  refine (findUser_parallel principal).bind fun _ => (findEvent_parallel s _ _).bind fun row => ?_
  split
  · exact fail _
  · refine (statusOf_parallel s _ _).bind fun shown => ?_
    dsimp only
    split
    · exact (ask .clock).bind fun _ => (ofExcept _).bind fun _ =>
        (publishRecord_parallel _ _).bind fun _ => pure _
    · exact fail _

/-! ## All operations -/

theorem perform_parallel (call : Call) : Parallel w w' (call.perform s) (call.perform s) := by
  cases call with
  | createEvent project request downSelected principal =>
      exact (findProject_parallel s _).bind fun _ => (ofExcept _).bind fun _ =>
        (openEvent_parallel s _ _ _ _ _).bind fun _ => ofExcept _
  | updateEvent project event edit principal =>
      exact updateEvent_parallel s project event edit principal
  | getEvent project event principal =>
      exact (findEvent_parallel s _ _).bind fun _ => (statusOf_parallel s _ _).bind fun _ =>
        (criteriaOf_parallel _ _ _).bind fun _ => (ofExcept _).bind fun _ => pure _
  | listEvents project principal =>
      exact (findProject_parallel s _).bind fun _ => (look_parallel s _ _).bind fun _ =>
        summaries_parallel s _ _
  | publishEvent project event dates principal =>
      exact publishEvent_parallel s project event dates principal
  | listSuppliers project event =>
      exact (findEvent_parallel s _ _).bind fun _ => suppliersOf_parallel s _
  | addSuppliers project event refs overwrite principal =>
      exact (findEvent_parallel s _ _).bind fun _ =>
        (addSuppliersTo_parallel s _ _ overwrite principal).bind fun _ => pure _
  | deleteSupplier project event organisation principal =>
      exact (findEvent_parallel s _ _).bind fun _ => deleteSupplierOf_parallel s _ _ _
  | listDocuments project event =>
      exact (findEvent_parallel s _ _).bind fun _ => documentsOf_parallel s _
  | uploadDocument project event upload =>
      exact (findEvent_parallel s _ _).bind fun _ => uploadTo_parallel s _ _
  | getDocument project event document =>
      exact (findEvent_parallel s _ _).bind fun _ => fileOf_parallel s _ _

end

end Desk
end TenderDesk
