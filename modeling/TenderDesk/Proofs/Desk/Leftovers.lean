import TenderDesk.Proofs.Desk.Recorded

/-!
# Leftovers — what a failed update leaves in its session

Edits are staged before the platform is asked, and only a failure of the platform takes them back.
An update that fails while it stages its edits leaves in the session what it had staged so far, for
every later call on that session to show and to save.

* `Leaves … before row` says that a failed update left `row` in the place of `before`.
* Nothing else can be left, so the session is clean exactly when every row that was left is the one
  that was there.
-/

namespace TenderDesk
namespace Desk

variable {ω : Type} {w : Surroundings ω} {m : ω} {s : Settings} {saved : Store} {project : Int}
variable {event : String} {edit : EventEdit} {principal : String}

/-! ## What is left -/

/-- An update that stops without saving leaves a row: while it stages its edits, or after it brought
the platform up to date for a call without edits. -/
inductive Leaves (s : Settings) (w : Surroundings ω) (start : Run ω) (project : Int)
    (event : String) (edit : EventEdit) (principal : String) : Row → Row → Prop
  | staging {before : Row} {r₀ r₁ : Run ω} {failure : Failure}
      (found : findEvent s project event w start = (.ok before, r₀))
      (staged : stageEdits before edit principal w r₀ = (.error failure, r₁)) :
      Leaves s w start project event edit principal before (leftBehind before edit)
  | unsaved {before row row' : Row} {r₀ r₁ r₂ : Run ω}
      (found : findEvent s project event w start = (.ok before, r₀))
      (staged : stageEdits before edit principal w r₀ = (.ok row, r₁))
      (brought : updateRecord s before row edit principal w r₁ = (.ok row', r₂))
      (hedit : isEdit edit = false) :
      Leaves s w start project event edit principal before row'

namespace Leaves

variable {start r₀ r₁ : Run ω} {before before' row row' : Row}

theorem found (h : Leaves s w start project event edit principal before row) :
    ∃ r₀, findEvent s project event w start = (.ok before, r₀) := by
  cases h with
  | staging hfound => exact ⟨_, hfound⟩
  | unsaved hfound => exact ⟨_, hfound⟩

/-- Where staging failed, what was staged so far is left. -/
theorem of_refused (h : Leaves s w start project event edit principal before' row')
    {failure : Failure} (hfound : findEvent s project event w start = (.ok before, r₀))
    (hstaged : stageEdits before edit principal w r₀ = (.error failure, r₁)) :
    before' = before ∧ row' = leftBehind before edit := by
  cases h with
  | staging hfound' =>
      rw [hfound] at hfound'
      cases hfound'
      exact ⟨rfl, rfl⟩
  | unsaved hfound' hstaged' =>
      rw [hfound] at hfound'
      cases hfound'
      rw [hstaged] at hstaged'
      cases hstaged'

/-- Where staging came to its end, what the platform was brought up to date with is left. -/
theorem of_staged (h : Leaves s w start project event edit principal before' row')
    (hfound : findEvent s project event w start = (.ok before, r₀))
    (hstaged : stageEdits before edit principal w r₀ = (.ok row, r₁)) :
    before' = before ∧ ∃ r₂, updateRecord s before row edit principal w r₁ = (.ok row', r₂) := by
  cases h with
  | staging hfound' hstaged' =>
      rw [hfound] at hfound'
      cases hfound'
      rw [hstaged] at hstaged'
      cases hstaged'
  | unsaved hfound' hstaged' hbrought' =>
      rw [hfound] at hfound'
      cases hfound'
      rw [hstaged] at hstaged'
      cases hstaged'
      exact ⟨rfl, _, hbrought'⟩

/-- The run decides what is left. -/
theorem unique (h : Leaves s w start project event edit principal before row)
    (h' : Leaves s w start project event edit principal before' row') :
    before = before' ∧ row = row' := by
  cases h with
  | staging hfound hstaged =>
      rcases h'.of_refused hfound hstaged with ⟨rfl, rfl⟩
      exact ⟨rfl, rfl⟩
  | unsaved hfound hstaged hbrought =>
      rcases h'.of_staged hfound hstaged with ⟨rfl, r₂, hbrought'⟩
      rw [hbrought] at hbrought'
      cases hbrought'
      exact ⟨rfl, rfl⟩

end Leaves

theorem leftBehind_id (before : Row) (edit : EventEdit) :
    (leftBehind before edit).id = before.id := by
  unfold leftBehind
  rcases hkind : withKind (renamed before edit) edit.kind with failure | row
  · rfl
  · obtain ⟨kind, rfl, -⟩ := withKind_eq_ok hkind
    dsimp only
    split <;> rfl

theorem replace_eq_self_iff {before row : Row} (h : saved.Numbered) (hmem : before ∈ saved.rows)
    (hid : row.id = before.id) : saved.replace row = saved ↔ row = before := by
  constructor
  · intro heq
    have hrow : row ∈ (saved.replace row).rows := Store.mem_replace_of_mem hmem hid.symm
    rw [heq] at hrow
    exact h.eq_of_id_eq hrow hmem hid
  · rintro rfl
    exact h.replace_self hmem

/-! ## Commits -/

/-- A commit was asked for. -/
def asksCommit : Trail ω :=
  fun _ asked => .commit ∈ asked

theorem asksCommit_keeps (S : Question → Prop) : w.Keeps S asksCommit :=
  fun _ _ _ _ h => List.mem_append_left _ h

theorem save_asks {P : Run ω → Prop} :
    Triple w P save (fun _ r => .commit ∈ r.asked) (fun _ r => .commit ∈ r.asked) := by
  have asked : Triple w P commit (fun _ r => .commit ∈ r.asked) (fun _ r => .commit ∈ r.asked) := by
    refine Triple.bind (R := fun _ r => .commit ∈ r.asked) ?_ fun answer => ?_
    · exact Triple.ask fun r _ => List.mem_append_right _ (List.mem_singleton.2 rfl)
    · exact Triple.bind (Triple.store fun r h => h) fun _ => Triple.pure fun r h => h
  apply Triple.bind asked
  intro v
  cases v with
  | done => exact Triple.edit fun r h => h
  | refused failure => exact Triple.edit_fail fun r h => h
  | unsent failure => exact Triple.edit_fail fun r h => h

/-- After edits the store is asked for a commit, whatever comes of it. -/
theorem saveEdits_asks {P : Run ω → Prop} (hedit : isEdit edit = true) (row : Row) :
    Triple w P (saveEdits row edit principal) (fun _ r => .commit ∈ r.asked)
      (fun _ r => .commit ∈ r.asked) := by
  unfold saveEdits
  rw [if_pos hedit]
  refine Triple.bind (R := fun _ _ => True) (Triple.edit fun _ _ => trivial) fun _ => ?_
  apply Triple.bind save_asks
  intro _
  exact Triple.pure fun r h => h

/-! ## The end of an update -/

/-- What an update does after the platform was brought up to date. -/
def closing (s : Settings) (row : Row) (edit : EventEdit) (principal : String) :
    Action ω EventSummary := do
  let row ← saveEdits row edit principal
  let (status, _) ← statusOf s row principal
  .ofExcept (summary row status)

theorem closing_asks {P : Run ω → Prop} (hedit : isEdit edit = true) (row : Row) :
    Triple w P (closing s row edit principal) (fun _ r => .commit ∈ r.asked)
      (fun _ r => .commit ∈ r.asked) := by
  unfold closing
  apply Triple.bind (saveEdits_asks hedit row)
  intro row'
  refine Triple.bind (R := fun _ r => .commit ∈ r.asked) ?_ fun status => ?_
  · -- Questions that are asked later do not take the commit away.
    intro r hr
    have telling := statusOf_triple (w := w) (σ := r.session)
      (asksCommit_keeps (Question.Asks fun _ => True)) s
      (fun record (_ : row'.record? = some record) => trivial) principal
    have hboth := telling.mono (fun _ h => h) (fun _ _ h => h.2) (fun _ _ h => h.2)
    exact hboth r ⟨rfl, hr⟩
  · exact Triple.ofExcept_keeping

theorem closing_keeps {σ : Session} {I : Trail ω} (hI : w.Keeps Question.IsHarmless I)
    (hedit : isEdit edit = false) (row : Row) :
    Triple w (Run.At σ I) (closing s row edit principal) (fun _ => Run.At σ I)
      (fun _ => Run.At σ I) := by
  unfold closing saveEdits
  rw [hedit]
  apply Triple.bind (R := fun _ => Run.At σ I) (Triple.pure fun r h => h)
  intro row'
  apply Triple.bind (statusOf_triple hI.asks s (fun _ _ => rfl) principal)
  intro status
  exact Triple.ofExcept_keeping

/-! ## Failed updates -/

/-- A failed update that never asked for a commit leaves a clean session, or one row in it. -/
theorem failed_update_cases {failure : Failure} {r : Run ω}
    (h : (Call.updateEvent project event edit principal).visit s w saved m = (.error failure, r))
    (hcommit : .commit ∉ r.asked) :
    (r.session = .fresh saved ∧
        ∀ before row, ¬Leaves s w (.start saved m) project event edit principal before row) ∨
      ∃ before row, Leaves s w (.start saved m) project event edit principal before row ∧
        before ∈ saved.rows ∧ row.id = before.id ∧
        r.session = ⟨saved, saved.replace row, none⟩ := by
  have start : (Run.start saved m).At (.fresh saved) (Wrote w m []) := ⟨rfl, rfl, rfl⟩
  have hrun : updateEvent s project event edit principal w (.start saved m) =
      (.error failure, r) := h
  unfold updateEvent at hrun
  have finding := findEvent_triple (σ := .fresh saved) (lookups w m []) s project event
  rcases Action.bind_apply_eq_error_iff.1 hrun with hfail | ⟨before, r₀, hfound, hrun⟩
  · -- The event was not found: nothing was staged yet.
    left
    refine ⟨(finding.of_error start hfail).at_fresh.1, ?_⟩
    intro before row hleaves
    rcases hleaves.found with ⟨r₀, hfound⟩
    rw [hfail] at hfound
    cases hfound
  rcases finding.of_ok start hfound with ⟨hnames, hat₀⟩
  have hmem : before ∈ saved.rows := hnames.mem
  have staging : Triple w (Run.At (.fresh saved) (Wrote w m []))
      (stageEdits before edit principal) _ _ :=
    stageEdits_triple (services w m []) before edit principal
  rcases Action.bind_apply_eq_error_iff.1 hrun with hfail | ⟨row, r₁, hstaged, hrun⟩
  · -- What was staged before the failure is not taken back.
    right
    have hat : r.session = ⟨saved, saved.replace (leftBehind before edit), none⟩ :=
      (staging.of_error hat₀ hfail).1
    exact ⟨before, _, .staging hfound hfail, hmem, leftBehind_id before edit, hat⟩
  rcases staging.of_ok hat₀ hstaged with ⟨hrevised, hat₁⟩
  have bringing : Triple w (Run.At ⟨saved, saved.replace row, none⟩ (Wrote w m []))
      (updateRecord s before row edit principal) _ _ :=
    updateRecord_triple s before row edit principal
  rcases Action.bind_apply_eq_error_iff.1 hrun with hfail | ⟨row', r₂, hbrought, hrun⟩
  · -- The platform was asked in vain: everything that was staged is taken back.
    left
    rcases Action.onFailure_apply_eq_error hfail with ⟨r', hfail', hr⟩
    have hsaved : r'.session.saved = saved := (bringing.of_error hat₁ hfail').saved
    refine ⟨by rw [hr]; exact congrArg Session.fresh hsaved, ?_⟩
    intro before' row'' hleaves
    rcases hleaves.of_staged hfound hstaged with ⟨rfl, r₂, hbrought⟩
    rw [hfail'] at hbrought
    cases hbrought
  have hbrought' := Action.onFailure_apply_eq_ok hbrought
  rcases bringing.of_ok hat₁ hbrought' with ⟨ws, hsame, hat₂⟩
  have hclosing : closing s row' edit principal w r₂ = (.error failure, r) := hrun
  cases hedit : isEdit edit with
  | true =>
      -- An update with edits had asked for a commit before it could fail here.
      have hasked := (closing_asks (P := fun _ => True) hedit row').of_error trivial hclosing
      exact absurd hasked hcommit
  | false =>
      right
      have hat := (closing_keeps (Wrote.keeps_harmless m ws) hedit row').of_error hat₂ hclosing
      have hid : row'.id = before.id := hsame.same.1.trans hrevised.id
      exact ⟨before, row', .unsaved hfound hstaged hbrought' hedit, hmem, hid, hat.1⟩

/-- A failed update that never asked for a commit saves nothing, and its session is clean exactly
when every row that it left is the row that was there. -/
theorem failed_update_session {failure : Failure} {r : Run ω}
    (h : (Call.updateEvent project event edit principal).visit s w saved m = (.error failure, r))
    (hcommit : .commit ∉ r.asked) (hs : saved.Numbered) :
    r.session.saved = saved ∧ (r.session = .fresh saved ↔
      ∀ before row, Leaves s w (.start saved m) project event edit principal before row →
        row = before) := by
  rcases failed_update_cases h hcommit with
    ⟨hclean, hnone⟩ | ⟨before, row, hleaves, hmem, hid, hsession⟩
  · refine ⟨by rw [hclean]; rfl, fun _ before row hleaves => ?_, fun _ => hclean⟩
    exact absurd hleaves (hnone before row)
  · rw [hsession]
    refine ⟨rfl, ?_⟩
    -- A store tells its rows apart, so it shows every row that was changed in it.
    have hiff : saved.replace row = saved ↔ row = before := replace_eq_self_iff hs hmem hid
    constructor
    · intro hclean before' row' hleaves'
      rcases hleaves.unique hleaves' with ⟨rfl, rfl⟩
      exact hiff.1 (congrArg Session.working hclean)
    · intro hall
      rw [hiff.2 (hall before row hleaves)]
      rfl

/-- A scene with a user and nothing else: the platform cannot be reached, and there are no
assessments. -/
def bareScene : Scene where
  users := [("buyer", some "user_1")]
  now := default

/-- A store with one event, which has no kind of its own yet. -/
def bareStore : Store where
  projects := [benchProject]
  rows := [{ draft benchSettings benchProject "Pens" .tbd false "buyer" with id := 1 }]

/-- The platform refuses the record of a renamed event that was given a kind: nothing is left. -/
theorem failed_update_session_refused :
    let edit : EventEdit := { name := some "Paper", kind := some .rfi }
    let end_ := (Call.updateEvent 1 "ocds-b5fd17-1" edit "buyer").visit benchSettings
      Scene.surroundings bareStore bareScene
    end_.1.isOk = false ∧ .commit ∉ end_.2.asked ∧ end_.2.session = .fresh bareStore ∧
      ∀ before row, Leaves benchSettings Scene.surroundings (.start bareStore bareScene) 1
        "ocds-b5fd17-1" edit "buyer" before row → row = before := by
  intro edit end_
  have hcommit : .commit ∉ end_.2.asked := by decide +kernel
  have hfailed : end_.1 = .error (.platform (.unreachable "createRfx" "no scripted response")) := by
    decide +kernel
  have hclean : end_.2.session = .fresh bareStore := by decide +kernel
  have hs : bareStore.Numbered := List.nodup_singleton _
  have hsession := failed_update_session (s := benchSettings) (w := Scene.surroundings)
    (Prod.ext hfailed rfl) hcommit hs
  exact ⟨by rw [hfailed]; rfl, hcommit, hclean, hsession.2.1 hclean⟩

/-- The assessment that an edit names does not exist: the update fails and saves nothing, but the
next calls on the session show the new name, and save it. -/
theorem staged_name_left :
    let edit : EventEdit := { name := some "Paper", assessment := some 7 }
    let end_ := (Call.updateEvent 1 "ocds-b5fd17-1" edit "buyer").visit benchSettings
      Scene.surroundings bareStore bareScene
    end_.1.isOk = false ∧ .commit ∉ end_.2.asked ∧
      end_.2.session.saved.rows.map (·.name) = ["Pens"] ∧
      ((getEvent benchSettings 1 "ocds-b5fd17-1" "buyer" Scene.surroundings end_.2).1.map
        (·.title)) = .ok "Paper" ∧
      (updateEvent benchSettings 1 "ocds-b5fd17-1" { target := some 5 } "buyer"
        Scene.surroundings end_.2).2.session.saved.rows.map (·.name) = ["Paper"] := by
  decide +kernel

end Desk
end TenderDesk
