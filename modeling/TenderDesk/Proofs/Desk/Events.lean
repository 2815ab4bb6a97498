import TenderDesk.Desk.Events
import TenderDesk.Proofs.Desk.Records
import TenderDesk.Proofs.Desk.Table

/-!
# Events — what the parts of creating and changing an event do

* `Equipped` tells what was opened for a new event, `Revised` what an edit makes of a row, and
  `Brought` what is done to the platform for it.
* `leftBehind` is the row that stays in the session when an edit fails before the platform is asked.
-/

namespace TenderDesk
namespace Desk

open Sourcing

variable {ω : Type} {w : Surroundings ω} {σ : Session} {I : Trail ω} {saved : Store}

/-! ## Rows -/

theorem ofName_eq_ok_iff {name : String} {kind : EventKind} :
    EventKind.ofName name = .ok kind ↔ name = kind.name := by
  unfold EventKind.ofName
  constructor
  · intro h
    split at h
    · rename_i k hk
      cases h
      exact EventKind.ofName?_eq_some_iff.1 hk
    · cases h
  · rintro rfl
    rw [EventKind.ofName?_name]

theorem summary_eq_ok {row : Row} {status : Status} {told : EventSummary}
    (h : summary row status = .ok told) :
    row.publicId = told.id ∧ row.kind = told.kind.name := by
  unfold summary at h
  split at h
  · rename_i kind hkind
    cases h
    exact ⟨rfl, ofName_eq_ok_iff.1 hkind⟩
  · cases h

theorem summary_of_kind {row : Row} {kind : EventKind} (hkind : row.kind = kind.name)
    (status : Status) :
    summary row status = .ok {
      id := row.publicId, title := row.name, kind, status, reference := row.reference,
      assessment := row.assessment } := by
  unfold summary
  rw [ofName_eq_ok_iff.2 hkind]

theorem select_eq (row : Row) (organisations : List String) (principal : String) :
    row.select organisations principal =
      { row with selections := (row.select organisations principal).selections } := by
  induction organisations generalizing row with
  | nil => rfl
  | cons o os ih =>
      unfold Row.select at ih ⊢
      rw [List.foldl_cons, ih]
      split <;> rfl

/-- Adding suppliers touches nothing but the selections. -/
theorem withSuppliers_eq (row : Row) (organisations : List String) (overwrite : Bool)
    (principal : String) :
    withSuppliers row organisations overwrite principal =
      { row with
        selections := (withSuppliers row organisations overwrite principal).selections
        updatedBy := principal } := by
  unfold withSuppliers
  cases overwrite
  · simp only [Bool.false_eq_true, if_false]
    rw [select_eq]
  · simp only [if_true]
    rw [select_eq]

/-! ## Colleagues -/

theorem findUser_triple (hI : w.Keeps Question.IsService I) (principal : String) :
    Triple w (Run.At σ I) (findUser principal)
      (fun user r => user.isEmpty = false ∧ r.At σ I) (fun _ => Run.At σ I) := by
  unfold findUser
  refine Triple.bind (Triple.ask_keeping hI trivial) fun answer => ?_
  apply Triple.bind Triple.ofExcept_keeping
  intro user
  cases user with
  | none => exact Triple.fail fun r h => h
  | some user =>
      dsimp only
      split
      · exact Triple.fail fun r h => h
      · rename_i hne
        exact Triple.pure fun r h => ⟨Bool.eq_false_iff.2 hne, h⟩

/-- What is told of an assessment, or of a new one, is asked by one question. -/
theorem ask_service_triple {α : Type} {S : Question → Prop} {q : Question} (hI : w.Keeps S I)
    (hq : S q) (read : q.Answer → Except Failure α) :
    Triple w (Run.At σ I) (Action.ask q >>= fun answer => Action.ofExcept (read answer))
      (fun _ => Run.At σ I) (fun _ => Run.At σ I) := by
  apply Triple.bind (Triple.ask_keeping hI hq)
  intro answer
  exact Triple.ofExcept_keeping

theorem checkAssessment_triple {S : Question → Prop} (hI : w.Keeps S I) {id : Int}
    {principal : String} (hS : S (.assessment id principal)) :
    Triple w (Run.At σ I) (checkAssessment id principal) (fun _ => Run.At σ I)
      (fun _ => Run.At σ I) := by
  unfold checkAssessment
  refine Triple.bind (Triple.ask_keeping hI hS) fun answer => ?_
  apply Triple.bind Triple.ofExcept_keeping
  intro report
  exact Triple.pure fun r h => h

theorem openAssessment_triple {S : Question → Prop} (hI : w.Keeps S I) {project : Project}
    {kind : EventKind} {principal : String}
    (hS : S (.newAssessment project.framework project.lot kind principal)) :
    Triple w (Run.At σ I) (openAssessment project kind principal) (fun _ => Run.At σ I)
      (fun _ => Run.At σ I) :=
  ask_service_triple (q := .newAssessment _ _ _ _) hI hS _

theorem assessmentFor_triple {S : Question → Prop} (hI : w.Keeps S I) {project : Project}
    {kind : EventKind} {principal : String} (hS : ∀ id, S (.assessment id principal))
    (hnew : S (.newAssessment project.framework project.lot kind principal))
    (asked : Option Int) :
    Triple w (Run.At σ I) (assessmentFor project kind asked principal) (fun _ => Run.At σ I)
      (fun _ => Run.At σ I) := by
  cases asked with
  | some id => exact checkAssessment_triple hI (hS id)
  | none => exact openAssessment_triple hI hnew

theorem lotLinks_triple (hl : w.Keeps Question.IsLookup I) (hs : w.Keeps Question.IsService I)
    (settings : Settings) (project : Project) :
    Triple w (Run.At σ I) (lotLinks settings project) (fun _ => Run.At σ I)
      (fun _ => Run.Near σ I) := by
  unfold lotLinks
  refine Triple.bind (Triple.ask_keeping hs trivial) fun answer => ?_
  apply Triple.bind Triple.ofExcept_keeping.near
  intro organisations
  exact (links_triple hl settings organisations).mono_post fun _ _ h => h.2

theorem statusOf_triple {P : Request → Prop} (hI : w.Keeps (Question.Asks P) I)
    (settings : Settings) {row : Row}
    (hP : ∀ record, row.record? = some record → P (.showRecord record)) (principal : String) :
    Triple w (Run.At σ I) (statusOf settings row principal) (fun _ => Run.At σ I)
      (fun _ => Run.At σ I) := by
  unfold statusOf
  split
  · rename_i record hrecord
    refine Triple.bind (fetchRecord_triple hI (hP record hrecord)) fun snapshot => ?_
    rw [ofPlatform_eq]
    apply Triple.bind Triple.ofExcept_keeping
    intro status
    exact Triple.pure fun r h => h
  · split
    · refine Triple.bind (Triple.ask_keeping hI trivial) fun answer => ?_
      apply Triple.bind Triple.ofExcept_keeping
      intro word
      rw [ofPlatform_eq]
      apply Triple.bind Triple.ofExcept_keeping
      intro status
      exact Triple.pure fun r h => h
    · exact Triple.pure fun r h => h

/-! ## Records for events -/

/-- A record that is created for an event of a name. -/
def IsRecordFor (name : String) (rfx : Rfx) : Prop :=
  ∃ project template user company companies,
    rfx = newRecord project name template user company companies

/-- A row with the id and the reference code that a receipt gives. -/
def withReceipt (row : Row) (receipt : Receipt) : Row :=
  { row with externalId := receipt.id.get?, reference := receipt.reference.get? }

/-- The order to create a record. -/
abbrev creation (rfx : Rfx) : Request :=
  .write ⟨.createFromTemplate, rfx⟩

theorem createRecord_triple {J : Rfx → Receipt → Trail ω} (hl : w.Keeps Question.IsLookup I)
    (hs : w.Keeps Question.IsService I) (settings : Settings) (row : Row)
    (hJ : ∀ rfx, IsRecordFor row.name rfx → Sends w (creation rfx) I (J rfx))
    {project : Action ω Project}
    (hp : Triple w (Run.At σ I) project (fun _ => Run.At σ I) (fun _ => Run.At σ I))
    (principal : String) :
    Triple w (Run.At σ I) (createRecord settings row project principal)
      (fun row' r => ∃ rfx receipt, IsRecordFor row.name rfx ∧ row' = withReceipt row receipt ∧
        r.At σ (J rfx receipt))
      (fun _ => Run.Near σ I) := by
  unfold createRecord
  apply Triple.bind (findUser_triple hs principal).near
  intro user
  apply Triple.of_fact
  intro _
  refine Triple.bind (Triple.ask_keeping hs trivial) fun answer => ?_
  apply Triple.bind Triple.ofExcept_keeping.near
  intro company
  apply Triple.bind hp.near
  intro project
  apply Triple.bind (lotLinks_triple hl hs settings project)
  intro links
  apply Triple.bind Triple.ofExcept_keeping.near
  intro template
  have hrfx : IsRecordFor row.name (newRecord project row.name template user company
      (links.map (·.company))) := ⟨_, _, _, _, _, rfl⟩
  apply Triple.bind (writeRecord_triple (hJ _ hrfx)).near
  intro receipt
  exact Triple.pure fun r h => ⟨_, receipt, hrfx, rfl, h⟩

/-! ## Creating -/

/-- What was opened for a new event: the changes made on the platform, and the row. -/
inductive Equipped (row : Row) (kind : EventKind) (principal : String) : List Write → Row → Prop
  | assessed (howner : kind.owner = .assessment) (id : Int) (organisations : List String) :
      Equipped row kind principal []
        (withSuppliers { row with assessment := some id } organisations true principal)
  | recorded (howner : kind.owner = .platform) (rfx : Rfx) (receipt : Receipt)
      (hrfx : IsRecordFor row.name rfx) :
      Equipped row kind principal [(creation rfx, receipt)] (withReceipt row receipt)
  | unowned (howner : kind.owner = .nobody) (assessment : Option Int)
      (h : row.assessment = none) : Equipped row kind principal [] { row with assessment }

theorem Equipped.kind_eq {row row' : Row} {kind : EventKind} {principal : String}
    {ws : List Write} (h : Equipped row kind principal ws row') : row'.kind = row.kind := by
  cases h with
  | assessed _ id organisations => rw [withSuppliers_eq]
  | recorded => rfl
  | unowned => rfl

/-- Nothing was opened, or the store refused to save what was. -/
def Unfinished (L : List Write → Trail ω) (r : Run ω) : Prop :=
  L [] r.memory r.asked ∨ r.EndsInCommit ∧ ∃ ws, L ws r.memory r.asked

/-- Whatever is known of the changes that were made, opening an event adds one change at most, and
tells which. -/
theorem openEvent_brings {L : List Write → Trail ω} (hl : w.Keeps Question.IsLookup (L []))
    (hs : w.Keeps Question.IsService (L [])) (hc : ∀ ws, w.Keeps (· = .commit) (L ws))
    (settings : Settings) (project : Project) (row : Row) (hrow : row.assessment = none)
    (hcreate : ∀ rfx, IsRecordFor row.name rfx →
      Sends w (creation rfx) (L []) fun receipt => L [(creation rfx, receipt)])
    (kind : EventKind) (asked : Option Int) (principal : String) :
    Triple w (Run.At (.fresh saved) (L []))
      (openEvent settings project row kind asked principal)
      (fun row' r => ∃ ws draft, Equipped row kind principal ws draft ∧
        row' = { draft with id := saved.nextId } ∧ r.At (.fresh (saved.add row')) (L ws))
      (fun _ r => r.session = .fresh saved ∧ Unfinished L r) := by
  -- Before anything was opened there are no edits, so there is nothing to take back.
  have near : ∀ r : Run ω, r.Near (.fresh saved) (L []) →
      r.session = .fresh saved ∧ Unfinished L r := fun r h =>
    ⟨h.at_fresh.1, .inl h.2⟩
  -- Whatever was opened, its row is inserted the same way.
  have added : ∀ ws draft, Equipped row kind principal ws draft →
      Triple w (Run.At (.fresh saved) (L ws)) (insert draft)
        (fun row' r => ∃ ws draft, Equipped row kind principal ws draft ∧
          row' = { draft with id := saved.nextId } ∧ r.At (.fresh (saved.add row')) (L ws))
        (fun _ r => r.session = .fresh saved ∧ Unfinished L r) := by
    intro ws draft hd
    refine (insert_triple (hc ws) draft).mono (fun _ h => h) ?_ ?_
    · exact fun row' r h => ⟨ws, draft, hd, h.1, h.2⟩
    · exact fun _ r h => ⟨h.1.1, .inr ⟨h.2, ws, h.1.2⟩⟩
  unfold openEvent
  cases howner : kind.owner with
  | assessment =>
      dsimp only
      apply Triple.bind ((lotLinks_triple hl hs settings project).mono_fail fun _ => near)
      intro links
      refine Triple.bind ((assessmentFor_triple hs (fun _ => trivial) trivial asked).mono_fail
        fun _ r h => near r h.near) fun id => ?_
      exact added [] _ (.assessed howner id _)
  | platform =>
      dsimp only
      refine Triple.bind ((createRecord_triple hl hs settings row hcreate (Triple.pure fun r h => h)
        principal).mono_fail fun _ => near) fun row' => ?_
      refine Triple.of_exists fun rfx => Triple.of_exists fun receipt => ?_
      refine Triple.of_fact fun hrfx => Triple.of_fact fun hrow' => ?_
      subst hrow'
      exact added _ _ (.recorded howner rfx receipt hrfx)
  | nobody =>
      cases asked with
      | some id =>
          refine Triple.bind ((checkAssessment_triple hs trivial).mono_fail
            fun _ r h => near r h.near) fun a => ?_
          exact added [] _ (.unowned howner (some a) hrow)
      | none =>
          have hd : Equipped row kind principal [] { row with assessment := none } :=
            .unowned howner none hrow
          -- The row is inserted as it is, and it has no assessment.
          rw [← hrow] at hd
          exact added [] _ hd

/-! ## Changing -/

/-- What an edit makes of a row, the platform left aside. -/
structure Revised (before : Row) (edit : EventEdit) (row : Row) : Prop where
  kind : edit.kind = none ∧ row.kind = before.kind ∨
    ∃ kind, edit.kind = some kind ∧ kind ≠ .tbd ∧
      EventKind.stateOf (some before.kind) = EventKind.tbd.name ∧ row.kind = kind.name
  given : edit.assessment.isSome → row.assessment.isSome
  opened : needsAssessment before edit → row.assessment.isSome
  kept : edit.assessment = none → needsAssessment before edit = false →
    row.assessment = before.assessment
  rest : row = { before with
    name := (newName edit).getD before.name, kind := row.kind, assessment := row.assessment,
    target := edit.target.or before.target }

namespace Revised

variable {before row : Row} {edit : EventEdit}

theorem id (h : Revised before edit row) : row.id = before.id := by
  rw [h.rest]

theorem naming (h : Revised before edit row) : row.naming = before.naming := by
  rw [h.rest]

theorem kind_of_no_edit (h : Revised before edit row) (hedit : isEdit edit = false) :
    row.kind = before.kind := by
  unfold isEdit at hedit
  simp only [Bool.or_eq_false_iff, Option.isSome_eq_false_iff, Option.isNone_iff_eq_none] at hedit
  rcases hedit with ⟨⟨⟨-, hnone⟩, -⟩, -⟩
  rcases h.kind with ⟨-, hsame⟩ | ⟨kind, hsome, -⟩
  · exact hsame
  · rw [hnone] at hsome
    cases hsome

theorem record?_eq (h : Revised before edit row) : row.record? = before.record? := by
  unfold Row.record?
  rw [h.rest]

end Revised

/-- The row that stays in the session when an edit fails before the platform is asked. -/
def leftBehind (before : Row) (edit : EventEdit) : Row :=
  match withKind (renamed before edit) edit.kind with
  | .error _ => renamed before edit
  | .ok row =>
      if edit.assessment.isSome then row else { row with target := edit.target.or row.target }

theorem withKind_eq_ok {row row' : Row} {asked : Option EventKind}
    (h : withKind row asked = .ok row') :
    ∃ kind, row' = { row with kind } ∧ (asked = none ∧ kind = row.kind ∨
      ∃ k, asked = some k ∧ k ≠ .tbd ∧ EventKind.stateOf (some row.kind) = EventKind.tbd.name ∧
        kind = k.name) := by
  unfold withKind at h
  split at h
  · cases h
    exact ⟨row.kind, rfl, .inl ⟨rfl, rfl⟩⟩
  · rename_i k
    split at h
    · rename_i k' hk
      cases h
      rcases EventKind.assign_eq_ok_iff.1 hk with ⟨hne, hstate, rfl⟩
      exact ⟨k'.name, rfl, .inr ⟨k', rfl, hne, hstate, rfl⟩⟩
    · cases h

/-- An edit that is refused for its kind leaves its name. -/
theorem leftBehind_of_refused {before : Row} {edit : EventEdit} {failure : Failure}
    (h : withKind (renamed before edit) edit.kind = .error failure) :
    leftBehind before edit = renamed before edit := by
  unfold leftBehind
  rw [h]

/-- An edit whose assessment is not there leaves its name and its kind. -/
theorem leftBehind_of_given {before row : Row} {edit : EventEdit}
    (h : withKind (renamed before edit) edit.kind = .ok row) (hgiven : edit.assessment.isSome) :
    leftBehind before edit = row := by
  unfold leftBehind
  rw [h]
  exact if_pos hgiven

/-- An edit for which no assessment can be opened leaves everything else. -/
theorem leftBehind_of_needed {before row : Row} {edit : EventEdit}
    (h : withKind (renamed before edit) edit.kind = .ok row) (hnone : edit.assessment = none) :
    leftBehind before edit = { row with target := edit.target.or row.target } := by
  have hgiven : ¬edit.assessment.isSome := by
    rw [hnone]
    exact Bool.false_ne_true
  unfold leftBehind
  rw [h]
  exact if_neg hgiven

theorem needsAssessment_eq_true {row : Row} {edit : EventEdit} (h : needsAssessment row edit) :
    edit.assessment = none ∧ row.assessment = none := by
  unfold needsAssessment at h
  simp only [Bool.and_eq_true, Option.isNone_iff_eq_none] at h
  exact ⟨h.1.2, h.2⟩

theorem assessmentAfter_triple (hs : w.Keeps Question.IsService I) (row : Row) (edit : EventEdit)
    (principal : String) :
    Triple w (Run.At σ I) (assessmentAfter row edit principal)
      (fun a r => ((edit.assessment.isSome → a.isSome) ∧
        (edit.assessment = none → a = row.assessment)) ∧ r.At σ I)
      (fun _ r => edit.assessment.isSome ∧ r.At σ I) := by
  unfold assessmentAfter
  cases edit.assessment with
  | none =>
      have hrow : ((none : Option Int).isSome → row.assessment.isSome) ∧
          ((none : Option Int) = none → row.assessment = row.assessment) :=
        ⟨fun hnone => absurd hnone Bool.false_ne_true, fun _ => rfl⟩
      exact Triple.pure fun r h => ⟨hrow, h⟩
  | some id =>
      refine Triple.map ((checkAssessment_triple hs trivial).mono (fun _ h => h) ?_ ?_)
      · intro a r h
        exact ⟨⟨fun _ => rfl, fun hnone => by cases hnone⟩, h⟩
      · exact fun _ r h => ⟨rfl, h⟩

theorem stageEdits_triple (hs : w.Keeps Question.IsService I) (before : Row) (edit : EventEdit)
    (principal : String) :
    Triple w (Run.At (.fresh saved) I) (stageEdits before edit principal)
      (fun row r => Revised before edit row ∧ r.At ⟨saved, saved.replace row, none⟩ I)
      (fun _ => Run.At ⟨saved, saved.replace (leftBehind before edit), none⟩ I) := by
  unfold stageEdits
  let named : Row := renamed before edit
  apply Triple.bind (stage_triple named)
  intro _
  rcases hkind : withKind (renamed before edit) edit.kind with failure | row
  · -- Only the name was staged.
    rw [leftBehind_of_refused hkind]
    exact Triple.fail fun r h => h
  -- From here on the row has its new kind, and every step replaces what was staged before.
  rcases withKind_eq_ok hkind with ⟨kind, rfl, hk⟩
  let row : Row := { named with kind }
  refine Triple.bind (R := fun a r => a = row ∧ r.At ⟨saved, saved.replace named, none⟩ I)
    (Triple.pure fun r h => ⟨rfl, h⟩) fun _ => ?_
  apply Triple.of_fact
  intro heq
  rw [heq]
  apply Triple.bind (restage_triple (a := named) (b := row) rfl)
  intro _
  refine Triple.bind ((assessmentAfter_triple hs row edit principal).mono_fail ?_) fun a => ?_
  · -- Name and kind were staged.
    rintro _ r ⟨hgiven, hat⟩
    rw [leftBehind_of_given hkind hgiven]
    exact hat
  apply Triple.of_fact
  rintro ⟨hgiven, hkept⟩
  let linked : Row := { row with assessment := a, target := edit.target.or row.target }
  apply Triple.bind (restage_triple (a := row) (b := linked) rfl)
  intro _
  have hneeds : needsAssessment (renamed before edit) edit = needsAssessment before edit := rfl
  rcases hn : needsAssessment before edit with _ | _
  · -- The edit needs no assessment, or it gives one.
    rw [if_neg (hneeds.trans hn ▸ Bool.false_ne_true)]
    refine Triple.pure fun r h => ⟨?_, h⟩
    exact {
      kind := hk
      given := hgiven
      opened := fun h => by rw [hn] at h; cases h
      kept := fun hnone _ => hkept hnone
      rest := rfl }
  · rw [if_pos (hneeds.trans hn)]
    have hnone : edit.assessment = none := (needsAssessment_eq_true hn).1
    -- Everything but the assessment was staged.
    have hleft : leftBehind before edit = linked := by
      rw [leftBehind_of_needed hkind hnone]
      simp only [linked, hkept hnone]
      rfl
    rw [hleft]
    apply Triple.bind (projectOf_triple linked)
    intro project
    apply Triple.of_fact
    intro _
    apply Triple.bind Triple.ofExcept_keeping
    intro kind
    apply Triple.bind (openAssessment_triple hs trivial)
    intro id
    let opened : Row := { linked with assessment := some id }
    apply Triple.bind (restage_triple (a := linked) (b := opened) rfl)
    intro _
    refine Triple.pure fun r h => ⟨?_, h⟩
    exact {
      kind := hk
      given := fun _ => rfl
      opened := fun _ => rfl
      kept := fun _ h => by rw [hn] at h; cases h
      rest := rfl }

/-- What is done to the platform for an edit that made `row` of `before`, and the row after that. -/
inductive Brought (before : Row) (edit : EventEdit) (row : Row) : List Write → Row → Prop
  | recorded (kind : EventKind) (hkind : EventKind.ofName row.kind = .ok kind)
      (howner : kind.owner = .platform) (hnone : row.record? = none) (rfx : Rfx)
      (receipt : Receipt) (hrfx : IsRecordFor row.name rfx) :
      Brought before edit row [(creation rfx, receipt)] (withReceipt row receipt)
  | retitled (hsome : row.record?.isSome) (name : String) (hname : newName edit = some name)
      (receipt : Receipt) :
      Brought before edit row [(.write ⟨.createUpdate, titleChange before name⟩, receipt)] row
  | left (kind : EventKind) (hkind : EventKind.ofName row.kind = .ok kind)
      (hnone : row.record? = none → kind.owner ≠ .platform)
      (hsome : row.record?.isSome → newName edit = none) : Brought before edit row [] row

/-- The platform has no say in what an event is called outside and of which kind it is. -/
theorem Brought.same {before row row' : Row} {edit : EventEdit} {ws : List Write}
    (h : Brought before edit row ws row') :
    row'.id = row.id ∧ row'.naming = row.naming ∧ row'.kind = row.kind := by
  cases h <;> exact ⟨rfl, rfl, rfl⟩

/-- Whatever is known of the changes that were made, bringing the platform up to date adds one
change at most, and tells which. -/
theorem updateRecord_brings {L : List Write → Trail ω} (hl : w.Keeps Question.IsLookup (L []))
    (hs : w.Keeps Question.IsService (L [])) (settings : Settings) {before row : Row}
    {edit : EventEdit}
    (hcreate : row.record? = none → ∀ rfx, IsRecordFor row.name rfx →
      Sends w (creation rfx) (L []) fun receipt => L [(creation rfx, receipt)])
    (htitle : ∀ record name, row.record? = some record → newName edit = some name →
      Sends w (.write ⟨.createUpdate, titleChange before name⟩) (L []) fun receipt =>
        L [(.write ⟨.createUpdate, titleChange before name⟩, receipt)])
    (principal : String) :
    Triple w (Run.At ⟨saved, saved.replace row, none⟩ (L []))
      (updateRecord settings before row edit principal)
      (fun row' r => ∃ ws, Brought before edit row ws row' ∧
        r.At ⟨saved, saved.replace row', none⟩ (L ws))
      (fun _ => Run.Near ⟨saved, saved.replace row, none⟩ (L [])) := by
  unfold updateRecord
  apply Triple.bind Triple.ofExcept_knowing.near
  intro kind
  apply Triple.of_fact
  intro hkind
  cases hrecord : row.record? with
  | none =>
      by_cases howner : kind.owner = .platform
      · simp only [howner, if_true]
        -- An event of the platform without a record: the record is created now.
        have project := (projectOf_triple (w := w) (σ := ⟨saved, saved.replace row, none⟩)
          (I := L []) row).mono_post fun _ _ h => h.2
        refine Triple.bind (createRecord_triple hl hs settings row (hcreate hrecord) project
          principal) fun row' => ?_
        refine Triple.of_exists fun rfx => Triple.of_exists fun receipt => ?_
        refine Triple.of_fact fun hrfx => Triple.of_fact fun hrow' => ?_
        subst hrow'
        apply Triple.bind (restage_triple (a := row) (b := withReceipt row receipt) rfl)
        intro _
        exact Triple.pure fun r h => ⟨_, .recorded kind hkind howner hrecord rfx receipt hrfx, h⟩
      · simp only [howner, if_false]
        have hleft : Brought before edit row [] row :=
          .left kind hkind (fun _ => howner) fun h => by simp [hrecord] at h
        exact Triple.pure fun r h => ⟨[], hleft, h⟩
  | some record =>
      -- The event has its record, and only a new title is sent to it.
      have hsome : row.record?.isSome := by rw [hrecord]; rfl
      cases hname : newName edit with
      | none =>
          have hleft : Brought before edit row [] row :=
            .left kind hkind (fun h => by simp [hrecord] at h) fun _ => hname
          exact Triple.pure fun r h => ⟨[], hleft, h⟩
      | some name =>
          apply Triple.bind (writeRecord_triple (htitle record name hrecord hname)).near
          intro receipt
          exact Triple.pure fun r h => ⟨_, .retitled hsome name hname receipt, h⟩

theorem updateRecord_triple {m : ω} (settings : Settings) (before row : Row) (edit : EventEdit)
    (principal : String) :
    Triple w (Run.At ⟨saved, saved.replace row, none⟩ (Wrote w m []))
      (updateRecord settings before row edit principal)
      (fun row' r => ∃ ws, Brought before edit row ws row' ∧
        r.At ⟨saved, saved.replace row', none⟩ (Wrote w m ws))
      (fun _ => Run.Near ⟨saved, saved.replace row, none⟩ (Wrote w m [])) := by
  have hl : w.Keeps Question.IsLookup (Wrote w m []) :=
    (Wrote.keeps_harmless m []).mono fun _ => Question.isHarmless_of_isLookup
  have hs : w.Keeps Question.IsService (Wrote w m []) :=
    (Wrote.keeps_harmless m []).mono fun _ => Question.isHarmless_of_isService
  refine updateRecord_brings hl hs settings ?_ ?_ principal
  · exact fun _ rfx _ => Wrote.sends rfl m []
  · exact fun _ name _ _ => Wrote.sends rfl m []

/-- The row that is saved for an edit. -/
def signed (row : Row) (edit : EventEdit) (principal : String) : Row :=
  if isEdit edit then { row with updatedBy := principal } else row

theorem saveEdits_triple (hI : w.Keeps (· = .commit) I) (row : Row) (edit : EventEdit)
    (principal : String) :
    Triple w (Run.At ⟨saved, saved.replace row, none⟩ I) (saveEdits row edit principal)
      (fun row' r => row' = signed row edit principal ∧
        if isEdit edit then r.At (.fresh (saved.replace row')) I
        else r.At ⟨saved, saved.replace row, none⟩ I)
      (fun _ r => r.Kept saved I ∧ r.EndsInCommit) := by
  unfold saveEdits signed
  by_cases hedit : isEdit edit
  · simp only [hedit, if_true]
    let row' : Row := { row with updatedBy := principal }
    apply Triple.bind (restage_triple (a := row) (b := row') rfl)
    intro _
    apply Triple.bind (save_triple hI)
    intro _
    exact Triple.pure fun r h => ⟨rfl, h⟩
  · simp only [hedit, Bool.false_eq_true, if_false]
    exact Triple.pure fun r h => ⟨rfl, h⟩

end Desk
end TenderDesk
