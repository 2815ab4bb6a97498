import TenderDesk.Proofs.Desk.Calm
import TenderDesk.Proofs.Desk.Order
import TenderDesk.Proofs.Desk.Outage
import TenderDesk.Proofs.Desk.Recorded
import TenderDesk.Proofs.Desk.Showing
import TenderDesk.Proofs.Desk.Soundness

/-!
# Views — a summary, a listing and a detail of the same event agree

Three operations tell of an event, and each gathers the facts for itself.

* `Steady` surroundings show the same after they were read as before.
* `statusTold` is the status that steady surroundings tell of an event, whoever asks for it, and
  `inquiry` is what is asked for it.
* `views_agree` compares the operations. They agree but for one case: an update without edits may
  create a record, tell of it and not save it (`unsaved_record_told`).
-/

namespace TenderDesk

/-- What is told of an event in brief is told of it at length as well. -/
structure EventSummary.Agrees (told : EventSummary) (detail : EventDetail) : Prop where
  id : told.id = detail.id
  title : told.title = detail.title
  kind : told.kind = detail.kind
  status : told.status = detail.status
  reference : told.reference = detail.reference
  assessment : told.assessment = detail.assessment

namespace Desk

open Sourcing

/-! ## Steady surroundings -/

namespace Question

/-- What tells the status of an event. -/
def IsShowing : Question → Prop
  | .exchange (.showRecord _) | .assessment _ _ => True
  | _ => False

/-- What is asked while events are read. -/
def IsReading : Question → Prop
  | .exchange (.showRecord _) | .assessment _ _ | .criteria _ _ | .lookup | .pause _ => True
  | _ => False

theorem isReading_of_isShowing {q : Question} (h : q.IsShowing) : q.IsReading := by
  cases q with
  | exchange request => cases request <;> exact h
  | assessment => trivial
  | _ => exact absurd h id

theorem isReading_of_isLookup {q : Question} (h : q.IsLookup) : q.IsReading := by
  cases q with
  | lookup => trivial
  | pause => trivial
  | _ => exact absurd h id

theorem isOutward_of_isShowing {q : Question} (h : q.IsShowing) : q.isOutward = true := by
  cases q <;> first | rfl | exact absurd h id

end Question

variable {ω α : Type} {w : Surroundings ω} {s : Settings} {saved : Store} {I : Trail ω}

/-- Records and assessments are shown alike by two memories. -/
def Surroundings.ShowsAlike (w : Surroundings ω) (m m' : ω) : Prop :=
  ∀ q : Question, q.IsShowing → (w q m').1 = (w q m).1

/-- Reading changes nothing of what is shown, the store answers at last, and there are criteria for
every event. -/
structure Steady (s : Settings) (w : Surroundings ω) : Prop where
  unmoved : ∀ q : Question, q.IsReading → ∀ m, w.ShowsAlike m (w q m).2
  answers : ∀ m, (w.wait s.attempts m).answered = true
  judged : ∀ project event m, ∃ j criteria, (w (.criteria project event) m).1 = .ok j ∧
    EventDetail.criteriaCodec.read j = .ok criteria

/-- Since the memory `m` nothing was changed that is shown, and `qs` was asked beyond the store. -/
def Shown (w : Surroundings ω) (m : ω) (qs : List Question) : Trail ω :=
  fun m' asked => w.ShowsAlike m m' ∧ outward asked = qs

theorem Surroundings.ShowsAlike.refl (w : Surroundings ω) (m : ω) : w.ShowsAlike m m :=
  fun _ _ => rfl

theorem Surroundings.ShowsAlike.trans {m m' m'' : ω} (h : w.ShowsAlike m m')
    (h' : w.ShowsAlike m' m'') : w.ShowsAlike m m'' :=
  fun q hq => (h' q hq).trans (h q hq)

theorem Steady.shown_lookups (hw : Steady s w) (m : ω) (qs : List Question) :
    w.Keeps Question.IsLookup (Shown w m qs) := by
  rintro q hq m' asked ⟨halike, hasked⟩
  refine ⟨halike.trans (hw.unmoved q (Question.isReading_of_isLookup hq) m'), ?_⟩
  rw [outward_append, hasked, outward_of_isLookup (by simpa using hq), List.append_nil]

/-! ## Lookups -/

/-- Where the store answers at last, a lookup tells what is there. -/
theorem look_steady (hw : Steady s w) (hl : w.Keeps Question.IsLookup I) {words : List Int}
    (hreads : saved.Reads words) (read : Store → α) :
    Triple w (Run.At (.fresh saved) I) (look s words read)
      (fun a r => a = read saved ∧ r.At (.fresh saved) I) Never := by
  intro r hr
  have hrun := look_triple hl s words read r hr
  have htold : saved.lookUp words read (w.wait s.attempts r.memory).answered = .ok (read saved) :=
    Store.lookUp_eq_ok_iff.2 ⟨hw.answers r.memory, hreads, rfl⟩
  rw [look_course hr.1, htold] at hrun ⊢
  exact hrun

theorem findEvent_steady (hw : Steady s w) (hl : w.Keeps Question.IsLookup I) {project : Int}
    {event : String} {row : Row} (hnames : Names s.naming saved project event row)
    (hreads : saved.Reads [project, row.id]) :
    Triple w (Run.At (.fresh saved) I) (findEvent s project event)
      (fun found r => found = row ∧ r.At (.fresh saved) I) Never := by
  unfold findEvent
  rw [id_of_names hnames, Action.ofExcept_ok, pure_bind]
  apply Triple.bind_known (look_steady hw hl hreads _)
  rw [row?_of_names hnames]
  exact Triple.pure fun r h => ⟨rfl, h⟩

/-! ## The status of an event -/

/-- What is asked for the status of an event. -/
def inquiry (principal : String) (row : Row) : List Question :=
  match row.record? with
  | some record => [.exchange (.showRecord record)]
  | none =>
      match row.assessment with
      | some assessment => [.assessment assessment principal]
      | none => []

/-- What the surroundings tell of the status of an event when they are asked for it. -/
def statusTold (s : Settings) (w : Surroundings ω) (m : ω) (principal : String) (row : Row) :
    Except Failure (Status × Option Snapshot) :=
  (statusOf s row principal w (.start {} m)).1

theorem ask_showing (hw : Steady s w) {σ : Session} {m : ω} {qs : List Question} {q : Question}
    (hq : q.IsShowing) {r : Run ω} (hr : r.At σ (Shown w m qs)) :
    (w q r.memory).1 = (w q m).1 ∧ (r.asking w q).At σ (Shown w m (qs ++ [q])) := by
  obtain ⟨hsession, halike, hasked⟩ := hr
  have houtward : outward [q] = [q] := by simp [outward, Question.isOutward_of_isShowing hq]
  refine ⟨halike q hq, hsession, ?_, ?_⟩
  · exact halike.trans (hw.unmoved q (Question.isReading_of_isShowing hq) r.memory)
  · show outward (r.asked ++ [q]) = qs ++ [q]
    rw [outward_append, hasked, houtward]

theorem statusOf_of_record {row : Row} {record : String} (hrecord : row.record? = some record)
    (principal : String) (r : Run ω) :
    statusOf s row principal w r =
      match urlOf s.platform "exportRfx" with
      | .ok _ => ((Snapshot.ofReply record (w (.exchange (.showRecord record)) r.memory).1).bind
          fun snapshot => ((translate s.statuses (Status.codeText snapshot.statusCode?)).mapError
            Failure.platform).map (·, some snapshot), r.asking w (.exchange (.showRecord record)))
      | .error failure => (.error failure, r) := by
  unfold statusOf
  rw [hrecord]
  dsimp only
  rw [Action.bind_apply, fetchRecord_course,
    show (Request.showRecord record).endpoint = "exportRfx" from rfl]
  cases urlOf s.platform "exportRfx" with
  | error failure => rfl
  | ok url =>
      dsimp only
      cases Snapshot.ofReply record (w (.exchange (.showRecord record)) r.memory).1 with
      | error failure => rfl
      | ok snapshot =>
          simp only [ofPlatform_eq, Action.bind_apply, ofExcept_apply, Except.bind]
          cases translate s.statuses (Status.codeText snapshot.statusCode?) <;> rfl

theorem statusOf_of_assessment {row : Row} {id : Int} (hnone : row.record? = none)
    (hassessment : row.assessment = some id) (principal : String) (r : Run ω) :
    statusOf s row principal w r =
      ((w (.assessment id principal) r.memory).1.bind fun report =>
        ((statusOfWord report.status).mapError Failure.platform).map (·, none),
        r.asking w (.assessment id principal)) := by
  unfold statusOf
  rw [hnone]
  dsimp only
  rw [hassessment]
  simp only [Action.bind_apply, Action.ask_apply, ofExcept_apply]
  cases (w (.assessment id principal) r.memory).1 with
  | error failure => rfl
  | ok report =>
      simp only [ofPlatform_eq, ofExcept_apply, Except.bind]
      cases statusOfWord report.status <;> rfl

/-- Whenever the status of an event is asked for, it is what was told of it before. -/
theorem statusOf_steady (hw : Steady s w) {σ : Session} {m : ω} {qs : List Question}
    (principal : String) (row : Row) :
    Triple w (Run.At σ (Shown w m qs)) (statusOf s row principal)
      (fun told r => statusTold s w m principal row = .ok told ∧
        r.At σ (Shown w m (qs ++ inquiry principal row)))
      (fun failure _ => statusTold s w m principal row = .error failure) := by
  intro r hr
  unfold statusTold inquiry
  cases hrecord : row.record? with
  | some record =>
      obtain ⟨hanswer, hend⟩ := ask_showing hw (q := .exchange (.showRecord record)) trivial hr
      rw [statusOf_of_record hrecord, statusOf_of_record hrecord, hanswer]
      cases urlOf s.platform "exportRfx" with
      | error failure => rfl
      | ok url =>
          dsimp only [Run.start]
          split
          · rename_i told r' hrun
            obtain ⟨htold, rfl⟩ := Prod.mk.inj hrun
            exact ⟨htold, hend⟩
          · rename_i failure r' hrun
            exact (Prod.mk.inj hrun).1
  | none =>
      cases hassessment : row.assessment with
      | some id =>
          obtain ⟨hanswer, hend⟩ := ask_showing hw (q := .assessment id principal) trivial hr
          rw [statusOf_of_assessment hrecord hassessment,
            statusOf_of_assessment hrecord hassessment, hanswer]
          dsimp only [Run.start]
          split
          · rename_i told r' hrun
            obtain ⟨htold, rfl⟩ := Prod.mk.inj hrun
            exact ⟨htold, hend⟩
          · rename_i failure r' hrun
            exact (Prod.mk.inj hrun).1
      | none =>
          unfold statusOf
          rw [hrecord]
          dsimp only
          rw [hassessment, List.append_nil]
          exact ⟨rfl, hr⟩

theorem statusTold_congr (hw : Steady s w) {m m' : ω} (h : w.ShowsAlike m m') (principal : String)
    (row : Row) : statusTold s w m' principal row = statusTold s w m principal row := by
  have start : (Run.start {} m').At (.fresh {}) (Shown w m []) := ⟨rfl, h, rfl⟩
  have hrun := statusOf_steady hw principal row (.start {} m') start
  unfold statusTold at hrun ⊢
  split at hrun
  · rename_i told r hend
    rw [hend, hrun.1]
  · rename_i failure r hend
    rw [hend, hrun]

/-! ## Summaries and details -/

/-- What is told of an event in brief. -/
def IsToldOf (s : Settings) (w : Surroundings ω) (m : ω) (principal : String) (row : Row)
    (told : EventSummary) : Prop :=
  ∃ shown, statusTold s w m principal row = .ok shown ∧ summary row shown.1 = .ok told

theorem IsToldOf.unique {m : ω} {principal : String} {row : Row} {told told' : EventSummary}
    (h : IsToldOf s w m principal row told) (h' : IsToldOf s w m principal row told') :
    told = told' := by
  obtain ⟨shown, hshown, hsummary⟩ := h
  obtain ⟨shown', hshown', hsummary'⟩ := h'
  obtain rfl : shown = shown' := Except.ok.inj (hshown.symm.trans hshown')
  exact Except.ok.inj (hsummary.symm.trans hsummary')

theorem exists_told {m : ω} {principal : String} {rows : List Row} {told : List EventSummary}
    (h : List.Forall₂ (IsToldOf s w m principal) rows told) :
    ∀ row ∈ rows, ∃ t, IsToldOf s w m principal row t :=
  ((List.forall₂_and_left rows told).1 (h.imp fun _ t ht => ⟨⟨t, ht⟩, ht⟩)).1

theorem criteriaOf_steady (hw : Steady s w) {P : Run ω → Prop} {row : Row} {kind : EventKind}
    (hkind : row.kind = kind.name) (project : Int) (event : String) :
    Triple w P (criteriaOf row project event) (fun _ _ => True) Never := by
  unfold criteriaOf
  rw [ofName_eq_ok_iff.2 hkind, Action.ofExcept_ok, pure_bind]
  split
  · refine Triple.bind (R := fun answer _ => ∃ m, (w (.criteria project event) m).1 = answer)
      (Triple.ask fun r _ => ⟨r.memory, rfl⟩) fun answer => ?_
    apply Triple.of_exists
    intro m r hanswer
    obtain ⟨j, criteria, htold, hread⟩ := hw.judged project event m
    rw [← hanswer, htold, Action.ofExcept_ok, pure_bind, hread]
    exact trivial
  · exact Triple.pure fun _ _ => trivial

theorem getEvent_steady (hw : Steady s w) {m : ω} {qs : List Question} {project : Int}
    {event : String} {row : Row} (hnames : Names s.naming saved project event row)
    (hreads : saved.Reads [project, row.id]) {kind : EventKind} (hkind : row.kind = kind.name)
    (principal : String) :
    Triple w (Run.At (.fresh saved) (Shown w m qs)) (getEvent s project event principal)
      (fun detail _ => ∃ told, IsToldOf s w m principal row told ∧ told.Agrees detail)
      (fun failure _ => statusTold s w m principal row = .error failure) := by
  unfold getEvent
  apply Triple.bind_known (findEvent_steady hw (hw.shown_lookups m qs) hnames hreads)
  apply Triple.bind (statusOf_steady hw principal row)
  intro shown
  apply Triple.of_fact
  intro hshown
  refine Triple.bind (criteriaOf_steady hw hkind project event).of_never fun criteria => ?_
  rw [ofName_eq_ok_iff.2 hkind, Action.ofExcept_ok, pure_bind]
  refine Triple.pure fun r _ => ⟨_, ⟨shown, hshown, summary_of_kind hkind shown.1⟩, ?_⟩
  exact ⟨rfl, rfl, rfl, rfl, rfl, rfl⟩

theorem summaries_steady (hw : Steady s w) {σ : Session} {m : ω} (qs : List Question)
    (principal : String) {rows : List Row}
    (hknown : ∀ row ∈ rows, ∃ kind : EventKind, row.kind = kind.name) :
    Triple w (Run.At σ (Shown w m qs)) (summaries s principal rows)
      (fun told r => List.Forall₂ (IsToldOf s w m principal) rows told ∧
        r.At σ (Shown w m (qs ++ rows.flatMap (inquiry principal))))
      (fun failure _ => ∃ row ∈ rows, statusTold s w m principal row = .error failure) := by
  induction rows generalizing qs with
  | nil =>
      rw [List.flatMap_nil, List.append_nil]
      exact Triple.pure fun r h => ⟨.nil, h⟩
  | cons row rows ih =>
      obtain ⟨kind, hkind⟩ := hknown row List.mem_cons_self
      have hrest := ih (qs ++ inquiry principal row)
        fun row' hrow' => hknown row' (List.mem_cons_of_mem _ hrow')
      apply Triple.bind ((statusOf_steady hw principal row).mono_fail
        fun _ _ h => ⟨row, List.mem_cons_self, h⟩)
      intro shown
      apply Triple.of_fact
      intro hshown
      have hfirst := summary_of_kind hkind shown.1
      dsimp only
      rw [hfirst, Action.ofExcept_ok, pure_bind]
      refine Triple.bind (hrest.mono_fail ?_) fun rest => ?_
      · rintro failure r ⟨row', hrow', hfailed⟩
        exact ⟨row', List.mem_cons_of_mem _ hrow', hfailed⟩
      · apply Triple.of_fact
        intro htold
        rw [List.flatMap_cons, ← List.append_assoc]
        exact Triple.pure fun r h => ⟨.cons ⟨shown, hshown, hfirst⟩ htold, h⟩

theorem listEvents_steady (hw : Steady s w) {m : ω} {qs : List Question} {project : Int}
    {found : Project} (hproject : saved.project? project = some found)
    (hreads : saved.Reads [project])
    (hknown : ∀ row ∈ saved.rowsOf project, ∃ kind : EventKind, row.kind = kind.name)
    (principal : String) :
    Triple w (Run.At (.fresh saved) (Shown w m qs)) (listEvents s project principal)
      (fun told r => List.Forall₂ (IsToldOf s w m principal) (saved.rowsOf project) told ∧
        outward r.asked = qs ++ (saved.rowsOf project).flatMap (inquiry principal))
      (fun failure _ => ∃ row ∈ saved.rowsOf project,
        statusTold s w m principal row = .error failure) := by
  have hl := hw.shown_lookups m qs
  unfold listEvents findProject
  simp only [bind_assoc]
  apply Triple.bind_known (look_steady hw hl hreads _)
  rw [hproject, Action.ofOption_some, pure_bind]
  apply Triple.bind_known (look_steady hw hl hreads _)
  exact (summaries_steady hw qs principal hknown).mono_post fun told r h => ⟨h.1, h.2.2.2⟩

/-- A project that is found was there, and the store could be asked for it. -/
theorem findProject_found {r r' : Run ω} {project : Int} {found : Project}
    (hr : r.session = .fresh saved)
    (h : findProject s project w r = (.ok found, r')) :
    saved.Reads [project] ∧ saved.project? project = some found ∧ r'.session = .fresh saved := by
  rcases Action.bind_apply_eq_ok_iff.1 h with ⟨told, r₁, hlook, hfound⟩
  rw [look_course hr] at hlook
  rcases Prod.mk.inj hlook with ⟨htold, rfl⟩
  rcases Store.lookUp_eq_ok_iff.1 htold with ⟨-, hreads, rfl⟩
  cases hproject : saved.project? project with
  | none =>
      rw [hproject] at hfound
      cases hfound
  | some p =>
      rw [hproject] at hfound
      cases hfound
      exact ⟨hreads, rfl, hr⟩

/-- A listing succeeds for projects only that are there and that the store can be asked for. -/
theorem listEvents_found {m : ω} {project : Int} {principal : String} {told : List EventSummary}
    {r : Run ω} (h : listEvents s project principal w (.start saved m) = (.ok told, r)) :
    saved.Reads [project] ∧ ∃ found, saved.project? project = some found := by
  rcases Action.bind_apply_eq_ok_iff.1 h with ⟨found, r', hproject, -⟩
  rcases findProject_found rfl hproject with ⟨hreads, hfound, -⟩
  exact ⟨hreads, found, hfound⟩

/-! ## Updates -/

/-- An edit that changes nothing makes the same row again. -/
theorem Revised.eq_of_no_edit {before row : Row} {edit : EventEdit} (h : Revised before edit row)
    (hedit : isEdit edit = false) : row = before := by
  have hkind := h.kind_of_no_edit hedit
  unfold isEdit at hedit
  simp only [Bool.or_eq_false_iff, Option.isSome_eq_false_iff, Option.isNone_iff_eq_none] at hedit
  obtain ⟨⟨⟨hname, hnone⟩, hassessment⟩, htarget⟩ := hedit
  have hneeds : needsAssessment before edit = false := by
    unfold needsAssessment
    rw [hnone]
    rfl
  have hkept := h.kept hassessment hneeds
  rw [h.rest, hname, hkind, hkept, htarget]
  rfl

theorem Brought.project_eq {before row row' : Row} {edit : EventEdit} {ws : List Write}
    (h : Brought before edit row ws row') : row'.project = row.project := by
  cases h <;> rfl

/-- Nothing is created for an event that has its record. -/
theorem Brought.eq_of_recorded {before row row' : Row} {edit : EventEdit} {ws : List Write}
    (h : Brought before edit row ws row') (hrow : row.Recorded) : row' = row := by
  cases h with
  | recorded kind hkind howner hnone rfx receipt hrfx =>
      have hsome := hrow kind (ofName_eq_ok_iff.1 hkind) howner
      rw [hnone] at hsome
      cases hsome
  | retitled => rfl
  | left => rfl

/-- The row that an update tells of is the one that is found afterwards, as long as nothing was
created that is not saved. -/
theorem Changed.names {project : Int} {event : String} {edit : EventEdit} {ws : List Write}
    {row' : Row} (h : Changed s saved project event edit ws row') (hs : saved.Numbered)
    (principal : String)
    (hkept : isEdit edit = true ∨
      ∀ row, Names s.naming saved project event row → row.Recorded) :
    Names s.naming (savedSession saved row' edit principal).saved project event
        (signed row' edit principal) ∧
      ∀ row, Names s.naming saved project event row → (signed row' edit principal).id = row.id := by
  obtain ⟨hbefore, hrow, hrow'⟩ := h
  rename_i before row
  have hid : row'.id = before.id := hrow'.same.1.trans hrow.id
  have hproject : row'.project = before.project := by
    rw [hrow'.project_eq, hrow.rest]
  unfold savedSession signed
  cases hedit : isEdit edit with
  | true =>
      simp only [if_true]
      refine ⟨⟨before.id, id_of_names hbefore, ?_⟩, fun other hother => ?_⟩
      · have hfound := row?_of_names hbefore
        obtain rfl : before.project = project := (Store.of_row? hfound).1
        exact Store.row?_replace_self hs hfound hid hproject
      · rw [hbefore.unique hother] at hid
        exact hid
  | false =>
      -- Without an edit the row is as it was, and it was found before.
      obtain rfl := hrow.eq_of_no_edit hedit
      have hrecorded : row.Recorded := by
        rcases hkept with hsome | hall
        · rw [hedit] at hsome
          cases hsome
        · exact hall row hbefore
      obtain rfl := hrow'.eq_of_recorded hrecorded
      simp only [Bool.false_eq_true, if_false]
      exact ⟨hbefore, fun other hother => congrArg Row.id (hbefore.unique hother)⟩

/-- A summary is made of what is shown, and what is shown stays as it is. -/
theorem tell_steady (hw : Steady s w) {σ : Session} {m : ω} {qs : List Question}
    (principal : String) (row : Row) :
    Triple w (Run.At σ (Shown w m qs))
      (do
        let (status, _) ← statusOf s row principal
        .ofExcept (summary row status))
      (fun told r => IsToldOf s w r.memory principal row told ∧ r.session = σ)
      (fun _ _ => True) := by
  apply Triple.bind ((statusOf_steady hw principal row).mono_fail fun _ _ _ => trivial)
  intro shown
  apply Triple.of_fact
  intro hshown
  refine Triple.ofExcept (fun told htold r h => ⟨⟨shown, ?_, htold⟩, h.1⟩) fun _ _ _ _ => trivial
  rw [statusTold_congr hw h.2.1, hshown]

/-- An update tells of the row that it made, as the surroundings show it from then on. -/
theorem updateEvent_steady (hw : Steady s w) (project : Int) (event : String) (edit : EventEdit)
    (principal : String) :
    Triple w (Run.At (.fresh saved) anything) (updateEvent s project event edit principal)
      (fun told r => ∃ ws row', Changed s saved project event edit ws row' ∧
        IsToldOf s w r.memory principal (signed row' edit principal) told ∧
        r.session = savedSession saved row' edit principal)
      (fun _ _ => True) := by
  rw [updateEvent_eq]
  refine Triple.bind ((changeEvent_triple (L := fun _ => anything) keeps_anything keeps_anything
    (fun _ => keeps_anything) s (fun _ _ _ _ _ => sends_anything _)
    (fun _ _ _ _ _ _ => sends_anything _) principal).mono_fail fun _ _ _ => trivial)
      fun last => ?_
  rintro r ⟨ws, row', ⟨hchanged, rfl⟩, hsession, -⟩
  refine (tell_steady hw principal (signed row' edit principal)).mono_post ?_ r
    ⟨hsession, .refl w r.memory, rfl⟩
  exact fun told end_ h => ⟨ws, row', hchanged, h⟩

/-- An update succeeds for events only that are there and that the store can be asked for. -/
theorem updateEvent_found {m : ω} {project : Int} {event principal : String} {edit : EventEdit}
    {told : EventSummary} {r : Run ω}
    (h : updateEvent s project event edit principal w (.start saved m) = (.ok told, r)) :
    ∃ row, Names s.naming saved project event row ∧ saved.Reads [project, row.id] := by
  obtain ⟨row, r', hfound, -⟩ := Action.bind_apply_eq_ok_iff.1 h
  rw [findEvent_course rfl] at hfound
  obtain ⟨hnames, -, hreads⟩ := Store.event_eq_ok_iff_names.1 (Prod.mk.inj hfound).1
  exact ⟨row, hnames, hreads⟩

/-! ## Histories -/

/-- What is known of a table that was kept by a desk. -/
structure Legible (naming : Naming) (saved : Store) : Prop where
  ordered : saved.Ordered naming
  sound : saved.Sound
  fits : saved.fits = true
  short : ∀ row ∈ saved.rows, row.id < 2 ^ 63

theorem fitsWord_of_lt {n : Nat} (h : n < 2 ^ 63) : Schema.Codec.fitsWord n = true := by
  unfold Schema.Codec.fitsWord
  simp only [Bool.and_eq_true, decide_eq_true_eq]
  omega

theorem Legible.reads (h : Legible s.naming saved) {project : Int}
    (hword : Schema.Codec.fitsWord project = true) {row : Row} (hrow : row ∈ saved.rowsOf project) :
    saved.Reads [project, row.id] := by
  have hid := fitsWord_of_lt (h.short row (Store.mem_rowsOf.1 hrow).1)
  exact ⟨h.fits, by simp [hword, hid]⟩

namespace World

theorem visits_legible (projects : List Project) (links : List Link) (m : ω) {calls : List Call}
    (hcalls : calls.length < 2 ^ 63) :
    Legible s.naming ((opening projects links m).visits s w calls).saved := by
  obtain ⟨hordered, hnext⟩ :=
    visits_ordered (s := s) (w := w) (opening_ordered s.naming projects links m) calls
  refine ⟨hordered, (visits_sound (opening_sound projects links m) calls).1,
    visits_fits rfl calls, fun row hrow => ?_⟩
  have hlt : row.id < _ := Store.id_lt_nextId hrow
  have hone : (opening projects links m).saved.nextId = 1 := rfl
  omega

/-- A detail tells what a summary would, or fails as the status does. -/
theorem getEvent_told (hw : Steady s w) {x : World ω} (hx : Legible s.naming x.saved)
    {project : Int} (hword : Schema.Codec.fitsWord project = true) {row : Row}
    (hrow : row ∈ x.saved.rowsOf project) (principal : String) :
    (∃ detail told, (x.outcome s w (.getEvent project row.publicId principal)).1 = .ok detail ∧
        IsToldOf s w x.memory principal row told ∧ told.Agrees detail) ∨
      ∃ failure, (x.outcome s w (.getEvent project row.publicId principal)).1 = .error failure ∧
        statusTold s w x.memory principal row = .error failure := by
  have hmem := (Store.mem_rowsOf.1 hrow).1
  obtain ⟨kind, hkind⟩ := (hx.sound.rows row hmem).known
  have hrun := getEvent_steady hw (names_publicId hx.ordered hrow (hx.short row hmem))
    (hx.reads hword hrow) hkind principal (.start x.saved x.memory) ⟨rfl, .refl w x.memory, rfl⟩
  unfold outcome
  split at hrun
  · rename_i detail r hend
    obtain ⟨told, htold, hagrees⟩ := hrun
    exact .inl ⟨detail, told, congrArg Prod.fst hend, htold, hagrees⟩
  · rename_i failure r hend
    exact .inr ⟨failure, congrArg Prod.fst hend, hrun⟩

/-- Where a status is told, the detail is told along with it. -/
theorem getEvent_of_told (hw : Steady s w) {x : World ω} (hx : Legible s.naming x.saved)
    {project : Int} (hword : Schema.Codec.fitsWord project = true) {row : Row}
    (hrow : row ∈ x.saved.rowsOf project) {principal : String} {told : EventSummary}
    (h : IsToldOf s w x.memory principal row told) :
    ∃ detail, (x.outcome s w (.getEvent project row.publicId principal)).1 = .ok detail ∧
      told.Agrees detail := by
  rcases getEvent_told hw hx hword hrow principal with
    ⟨detail, told', hdetail, htold', hagrees⟩ | ⟨failure, -, hfailed⟩
  · rw [h.unique htold']
    exact ⟨detail, hdetail, hagrees⟩
  · obtain ⟨shown, hshown, -⟩ := h
    cases hfailed.symm.trans hshown

/-- A listing tells of all events of a project, or fails as the status of one of them does. -/
theorem listEvents_told (hw : Steady s w) {x : World ω} (hx : Legible s.naming x.saved)
    {project : Int} (hword : Schema.Codec.fitsWord project = true) {found : Project}
    (hproject : x.saved.project? project = some found) (principal : String) :
    (∃ told, (x.outcome s w (.listEvents project principal)).1 = .ok told ∧
        List.Forall₂ (IsToldOf s w x.memory principal) (x.saved.rowsOf project) told ∧
        outward (x.outcome s w (.listEvents project principal)).2.asked =
          (x.saved.rowsOf project).flatMap (inquiry principal)) ∨
      ∃ failure, (x.outcome s w (.listEvents project principal)).1 = .error failure ∧
        ∃ row ∈ x.saved.rowsOf project,
          statusTold s w x.memory principal row = .error failure := by
  have hreads : x.saved.Reads [project] := ⟨hx.fits, by simp [hword]⟩
  have hknown : ∀ row ∈ x.saved.rowsOf project, ∃ kind : EventKind, row.kind = kind.name :=
    fun row hrow => (hx.sound.rows row (Store.mem_rowsOf.1 hrow).1).known
  have hrun := listEvents_steady hw hproject hreads hknown principal
    (.start x.saved x.memory) ⟨rfl, .refl w x.memory, rfl⟩
  unfold outcome
  split at hrun
  · rename_i told r hend
    obtain ⟨htold, hasked⟩ := hrun
    refine .inl ⟨told, congrArg Prod.fst hend, htold, ?_⟩
    exact (congrArg (fun run => outward run.2.asked) hend).trans hasked
  · rename_i failure r hend
    exact .inr ⟨failure, congrArg Prod.fst hend, hrun⟩

/-- A listing that succeeds looked its project up. -/
theorem project_of_listed {x : World ω} {project : Int} {principal : String}
    {told : List EventSummary}
    (h : (x.outcome s w (.listEvents project principal)).1 = .ok told) :
    Schema.Codec.fitsWord project = true ∧ ∃ p, x.saved.project? project = some p := by
  have hlisted : listEvents s project principal w (.start x.saved x.memory) =
      (.ok told, (x.outcome s w (.listEvents project principal)).2) := Prod.ext h rfl
  obtain ⟨hreads, hproject⟩ := listEvents_found hlisted
  exact ⟨by simpa using hreads.2, hproject⟩

/-- A listing succeeds exactly when its project can be looked up and the details of all its events
can be told. -/
theorem listEvents_ok_iff (hw : Steady s w) {x : World ω} (hx : Legible s.naming x.saved)
    (project : Int) (principal : String) :
    (∃ told, (x.outcome s w (.listEvents project principal)).1 = .ok told) ↔
      Schema.Codec.fitsWord project = true ∧ (∃ p, x.saved.project? project = some p) ∧
        ∀ row ∈ x.saved.rowsOf project, ∃ detail,
          (x.outcome s w (.getEvent project row.publicId principal)).1 = .ok detail := by
  constructor
  · rintro ⟨told, htold⟩
    obtain ⟨hword, p, hproject⟩ := project_of_listed htold
    refine ⟨hword, ⟨p, hproject⟩, fun row hrow => ?_⟩
    rcases listEvents_told hw hx hword hproject principal with
      ⟨told', -, hall, -⟩ | ⟨failure, hfailed, -⟩
    · obtain ⟨t, ht⟩ := exists_told hall row hrow
      obtain ⟨detail, hdetail, -⟩ := getEvent_of_told hw hx hword hrow ht
      exact ⟨detail, hdetail⟩
    · cases hfailed.symm.trans htold
  · rintro ⟨hword, ⟨p, hproject⟩, hall⟩
    rcases listEvents_told hw hx hword hproject principal with
      ⟨told, htold, -⟩ | ⟨failure, -, row, hrow, hstatus⟩
    · exact ⟨told, htold⟩
    · -- The status that the listing missed is missed by the detail of its event as well.
      obtain ⟨detail, hdetail⟩ := hall row hrow
      rcases getEvent_told hw hx hword hrow principal with
        ⟨-, told, -, ⟨shown, hshown, -⟩, -⟩ | ⟨failure', hfailed, -⟩
      · cases hstatus.symm.trans hshown
      · cases hfailed.symm.trans hdetail

/-- A listing that succeeds tells of every event of its project as its detail does. -/
theorem listEvents_agrees (hw : Steady s w) {x : World ω} (hx : Legible s.naming x.saved)
    {project : Int} {principal : String} {told : List EventSummary}
    (h : (x.outcome s w (.listEvents project principal)).1 = .ok told) :
    List.Forall₂ (fun row t => t.id = row.publicId ∧ ∃ detail,
        (x.outcome s w (.getEvent project row.publicId principal)).1 = .ok detail ∧
          t.Agrees detail) (x.saved.rowsOf project) told ∧
      outward (x.outcome s w (.listEvents project principal)).2.asked =
        (x.saved.rowsOf project).flatMap (inquiry principal) := by
  obtain ⟨hword, p, hproject⟩ := project_of_listed h
  rcases listEvents_told hw hx hword hproject principal with
    ⟨told', htold', hall, hasked⟩ | ⟨failure, hfailed, -⟩
  · obtain rfl : told' = told := Except.ok.inj (htold'.symm.trans h)
    refine ⟨?_, hasked⟩
    have hmem : List.Forall₂ (fun row t => row ∈ x.saved.rowsOf project ∧
        IsToldOf s w x.memory principal row t) (x.saved.rowsOf project) told' :=
      (List.forall₂_and_left _ told').2 ⟨fun _ hrow => hrow, hall⟩
    refine hmem.imp fun row t ⟨hrow, ht⟩ => ⟨?_, getEvent_of_told hw hx hword hrow ht⟩
    obtain ⟨shown, -, hsummary⟩ := ht
    exact (summary_eq_ok hsummary).1.symm
  · cases hfailed.symm.trans h

/-- After an update the detail of the event is told as the update told of it. -/
theorem updateEvent_told (hw : Steady s w) {x : World ω} (hx : Legible s.naming x.saved)
    {project : Int} {event principal : String} {edit : EventEdit} {told : EventSummary}
    (h : (x.outcome s w (.updateEvent project event edit principal)).1 = .ok told)
    (hkept : isEdit edit = true ∨
      ∀ row, Names s.naming x.saved project event row → row.Recorded) :
    ∃ detail, ((x.visit s w (.updateEvent project event edit principal)).outcome s w
      (.getEvent project event principal)).1 = .ok detail ∧ told.Agrees detail := by
  let call := Call.updateEvent project event edit principal
  let r := (x.outcome s w call).2
  have hend : updateEvent s project event edit principal w (.start x.saved x.memory) =
      (.ok told, r) := Prod.ext h rfl
  obtain ⟨ws, row', hchanged, htold, hsession⟩ :=
    (updateEvent_steady hw project event edit principal).of_ok ⟨rfl, trivial⟩ hend
  obtain ⟨hnames, hid⟩ := hchanged.names hx.ordered.numbered principal hkept
  obtain ⟨row, hrow, hreads⟩ := updateEvent_found hend
  have hfits : r.session.saved.fits = true := visit_fits s w call hx.fits x.memory
  rw [← hsession] at hnames
  have hread : r.session.saved.Reads [project, (signed row' edit principal).id] := by
    rw [hid row hrow]
    exact ⟨hfits, hreads.2⟩
  obtain ⟨shown, hshown, hsummary⟩ := id htold
  have hrun := getEvent_steady hw hnames hread (summary_eq_ok hsummary).2 principal
    (.start r.session.saved r.memory) ⟨rfl, .refl w r.memory, rfl⟩
  split at hrun
  · rename_i detail end_ hdetail
    obtain ⟨told', htold', hagrees⟩ := hrun
    rw [htold.unique htold']
    exact ⟨detail, congrArg Prod.fst hdetail, hagrees⟩
  · rename_i failure end_ hfailed
    cases hrun.symm.trans hshown

/-- In every world that is reached, as long as the numbers of its rows are words of the store: a
listing succeeds exactly when the project can be looked up and each of its events can be shown. Then
it tells of all of them, each once and in the order of their numbers, as their details do, and it
asks for the record or else for the assessment of each, in that order. What an update tells is what
is shown next, unless it has no edit to save for an event that lacks its record. -/
theorem views_agree (hw : Steady s w) (projects : List Project) (links : List Link) (m : ω)
    {calls : List Call} (hcalls : calls.length < 2 ^ 63) (project : Int) (principal : String) :
    let x := (opening projects links m).visits s w calls
    let rows := x.saved.rowsOf project
    let listed := x.outcome s w (.listEvents project principal)
    let detail := fun row : Row => (x.outcome s w (.getEvent project row.publicId principal)).1
    ((∃ told, listed.1 = .ok told) ↔ Schema.Codec.fitsWord project = true ∧
      (∃ p, x.saved.project? project = some p) ∧ ∀ row ∈ rows, ∃ d, detail row = .ok d) ∧
    (∀ told, listed.1 = .ok told →
      rows.Pairwise (fun a b => a.id < b.id) ∧
      List.Forall₂ (fun row t => t.id = row.publicId ∧ ∃ d, detail row = .ok d ∧ t.Agrees d) rows
        told ∧
      outward listed.2.asked = rows.flatMap (inquiry principal)) ∧
    ∀ event edit told,
      (x.outcome s w (.updateEvent project event edit principal)).1 = .ok told →
      (isEdit edit = true ∨ ∀ row, Names s.naming x.saved project event row → row.Recorded) →
      ∃ d, ((x.visit s w (.updateEvent project event edit principal)).outcome s w
        (.getEvent project event principal)).1 = .ok d ∧ told.Agrees d := by
  intro x rows listed detail
  have hx : Legible s.naming x.saved := visits_legible projects links m hcalls
  refine ⟨listEvents_ok_iff hw hx project principal, fun told htold => ?_,
    fun event edit told htold hkept => updateEvent_told hw hx htold hkept⟩
  exact ⟨hx.ordered.rowsOf project, listEvents_agrees hw hx htold⟩

/-! ## A platform that names records late -/

/-- Surroundings of which the platform gives no id to the first record that it creates, but to those
after it. All records that are shown are planned. -/
def lateNames : Surroundings Bool
  | .exchange (.write _), late =>
      (.ofReceipt (if late then benchDone else { code := .set 0, message := .set "OK" }), true)
  | .exchange _, late =>
      (.ofJson (.obj [("dataList", .arr [.obj [("rfxSetting", .obj [("statusCode", .int 100)])]])]),
        late)
  | .buyerUser _, late => (.ok (some "user_1"), late)
  | .buyerCompany _, late => (.ok none, late)
  | .lotSuppliers _ _, late => (.ok [], late)
  | .newAssessment _ _ _ _, late => (.ok 1, late)
  | .assessment id _, late => (.ok ⟨id, "planning"⟩, late)
  | .criteria _ _, late => (.ok (.arr []), late)
  | .lookup, late => (true, late)
  | .commit, late => (none, late)
  | .clock, late => (default, late)
  | .pause _, late => ((), late)

theorem lateNames_steady : Steady shownSettings lateNames where
  unmoved := by
    intro q hq late q' hq'
    cases q' with
    | exchange request =>
        cases request with
        | showRecord => rfl
        | _ => exact absurd hq' id
    | assessment => rfl
    | _ => exact absurd hq' id
  answers := fun late => by rw [Surroundings.wait_of_answer rfl]
  judged := fun _ _ _ => ⟨.arr [], [], rfl, rfl⟩

/-- Three new events, with a record, with an assessment, and with neither. -/
def threeCalls : List Call := [
  .createEvent 1 { name := some "Pens", kind := some .rfi } false "buyer",
  .createEvent 1 { name := some "Paper", kind := some .fca } false "buyer",
  .createEvent 1 { name := some "Ink" } false "buyer"]

/-- Three events tell their status in three ways, and the first of them is renamed then. -/
theorem views_agree_bench :
    let x := (opening [benchProject] [] true).visits shownSettings lateNames threeCalls
    let listed := x.outcome shownSettings lateNames (.listEvents 1 "buyer")
    let retitling := Call.updateEvent 1 "ocds-b5fd17-1" { name := some "Pencils" } "buyer"
    (∃ told, listed.1 = .ok told) ∧
      outward listed.2.asked = [.exchange (.showRecord "rfq_1"), .assessment 1 "buyer"] ∧
      ∃ d, ((x.visit shownSettings lateNames retitling).outcome shownSettings lateNames
        (.getEvent 1 "ocds-b5fd17-1" "buyer")).1 = .ok d ∧ d.title = "Pencils" := by
  intro x listed retitling
  let pens : EventSummary := {
    id := "ocds-b5fd17-1", title := "Pens", kind := .rfi, status := .planned,
    reference := some "itt_1" }
  let told : List EventSummary := [
    pens,
    { id := "ocds-b5fd17-2", title := "Paper", kind := .fca, status := .planning,
      assessment := some 1 },
    { id := "ocds-b5fd17-3", title := "Ink", kind := .tbd, status := .planning }]
  have hlisted : listed.1 = .ok told := by decide +kernel
  have hrows : (x.saved.rowsOf 1).flatMap (inquiry "buyer") =
      [.exchange (.showRecord "rfq_1"), .assessment 1 "buyer"] := by decide +kernel
  have hrenamed : (x.outcome shownSettings lateNames retitling).1 =
      .ok { pens with title := "Pencils" } := by decide +kernel
  obtain ⟨-, hlist, hupdate⟩ := views_agree lateNames_steady [benchProject] [] true
    (show threeCalls.length < 2 ^ 63 by decide) 1 "buyer"
  obtain ⟨d, hdetail, hagrees⟩ := hupdate _ _ _ hrenamed (.inl rfl)
  exact ⟨⟨told, hlisted⟩, (hlist told hlisted).2.2.trans hrows, d, hdetail, hagrees.title.symm⟩

/-- The record of an event was created without an id, and is created again by an update that has no
edit. The update tells of the second record, but did not save it. -/
theorem unsaved_record_told :
    let x := (opening [benchProject] [] false).visit shownSettings lateNames
      (.createEvent 1 { name := some "Pens", kind := some .rfi } false "buyer")
    let call := Call.updateEvent 1 "ocds-b5fd17-1" {} "buyer"
    Steady shownSettings lateNames ∧
      ∃ told d, (x.outcome shownSettings lateNames call).1 = .ok told ∧
        ((x.visit shownSettings lateNames call).outcome shownSettings lateNames
          (.getEvent 1 "ocds-b5fd17-1" "buyer")).1 = .ok d ∧ ¬told.Agrees d := by
  intro x call
  let told : EventSummary := {
    id := "ocds-b5fd17-1", title := "Pens", kind := .rfi, status := .planned,
    reference := some "itt_1" }
  let d : EventDetail := {
    id := "ocds-b5fd17-1", title := "Pens", kind := .rfi, status := .planning }
  have htold : (x.outcome shownSettings lateNames call).1 = .ok told := by decide +kernel
  have hdetail : ((x.visit shownSettings lateNames call).outcome shownSettings lateNames
      (.getEvent 1 "ocds-b5fd17-1" "buyer")).1 = .ok d := by decide +kernel
  refine ⟨lateNames_steady, told, d, htold, hdetail, fun hagrees => ?_⟩
  cases hagrees.status

end World
end Desk
end TenderDesk
