import TenderDesk.Desk.Action

/-!
# Triple — what holds before and after an action

`Triple w P x Q E` says of the action `x` in the surroundings `w`: from every run in which `P`
holds, it ends in a value and a run of which `Q` holds, or in a failure and a run of which `E`
holds. Every action ends, so a triple tells of all its endings.

* There is one rule for each way in which actions are built.
* `Run.At σ I`, `Run.Near σ I` and `Run.Kept saved I` are the assertions of almost all triples:
  where the session stands, and what is known of the memory and of the questions so far.
* `Surroundings.Keeps S I` frees a triple from `I`: no question of the sort `S` touches it.
-/

namespace TenderDesk
namespace Desk

variable {ω α β : Type} {w : Surroundings ω}

def Triple (w : Surroundings ω) (P : Run ω → Prop) (x : Action ω α) (Q : α → Run ω → Prop)
    (E : Failure → Run ω → Prop) : Prop :=
  ∀ r, P r → match x w r with
    | (.ok a, r') => Q a r'
    | (.error failure, r') => E failure r'

namespace Triple

variable {P : Run ω → Prop} {Q : α → Run ω → Prop} {E : Failure → Run ω → Prop}

/-! ## Reading a triple -/

theorem of_ok {x : Action ω α} (h : Triple w P x Q E) {r r' : Run ω} {a : α} (hP : P r)
    (hx : x w r = (.ok a, r')) : Q a r' := by
  have := h r hP
  rwa [hx] at this

theorem of_error {x : Action ω α} (h : Triple w P x Q E) {r r' : Run ω} {failure : Failure}
    (hP : P r) (hx : x w r = (.error failure, r')) : E failure r' := by
  have := h r hP
  rwa [hx] at this

/-! ## Structural rules -/

theorem mono {P' : Run ω → Prop} {Q' : α → Run ω → Prop} {E' : Failure → Run ω → Prop}
    {x : Action ω α} (h : Triple w P x Q E) (pre : ∀ r, P' r → P r)
    (post : ∀ a r, Q a r → Q' a r) (fail : ∀ failure r, E failure r → E' failure r) :
    Triple w P' x Q' E' := by
  intro r hP
  have := h r (pre r hP)
  rcases hx : x w r with ⟨failure | a, r'⟩ <;> simp only [hx] at this
  · exact fail failure r' this
  · exact post a r' this

theorem mono_post {Q' : α → Run ω → Prop} {x : Action ω α} (h : Triple w P x Q E)
    (post : ∀ a r, Q a r → Q' a r) : Triple w P x Q' E :=
  h.mono (fun _ h => h) post (fun _ _ h => h)

theorem mono_fail {E' : Failure → Run ω → Prop} {x : Action ω α} (h : Triple w P x Q E)
    (fail : ∀ failure r, E failure r → E' failure r) : Triple w P x Q E' :=
  h.mono (fun _ h => h) (fun _ _ h => h) fail

/-- A fact that the assertion before holds of no run in particular may be used at once. -/
theorem of_fact {φ : Prop} {x : Action ω α} (h : φ → Triple w P x Q E) :
    Triple w (fun r => φ ∧ P r) x Q E :=
  fun r ⟨hφ, hP⟩ => h hφ r hP

theorem of_exists {ι : Type} {P : ι → Run ω → Prop} {x : Action ω α}
    (h : ∀ i, Triple w (P i) x Q E) : Triple w (fun r => ∃ i, P i r) x Q E :=
  fun r ⟨i, hP⟩ => h i r hP

/-! ## Rules for the parts of actions -/

theorem pure {a : α} (h : ∀ r, P r → Q a r) : Triple w P (Pure.pure a) Q E :=
  h

theorem fail {failure : Failure} (h : ∀ r, P r → E failure r) :
    Triple w P (Action.fail failure) Q E :=
  h

theorem bind {R : α → Run ω → Prop} {Q : β → Run ω → Prop} {x : Action ω α}
    {f : α → Action ω β} (hx : Triple w P x R E) (hf : ∀ a, Triple w (R a) (f a) Q E) :
    Triple w P (x >>= f) Q E := by
  intro r hP
  have hr := hx r hP
  rw [Action.bind_apply]
  rcases h : x w r with ⟨failure | a, m⟩ <;> simp only [h] at hr
  · -- The first part failed, so the second was never run.
    exact hr
  · exact hf a m hr

theorem map {Q : β → Run ω → Prop} {f : α → β} {x : Action ω α}
    (hx : Triple w P x (fun a => Q (f a)) E) : Triple w P (f <$> x) Q E :=
  bind hx fun _ => pure fun _ h => h

theorem ofExcept {e : Except Failure α} (ok : ∀ a, e = .ok a → ∀ r, P r → Q a r)
    (error : ∀ failure, e = .error failure → ∀ r, P r → E failure r) :
    Triple w P (Action.ofExcept e) Q E := by
  cases e with
  | ok a => exact ok a rfl
  | error failure => exact error failure rfl

/-- A check that reads nothing of the run, and is told of nothing. -/
theorem ofExcept_keeping {C : Run ω → Prop} {e : Except Failure α} :
    Triple w C (Action.ofExcept e) (fun _ => C) (fun _ => C) :=
  ofExcept (fun _ _ _ h => h) (fun _ _ _ h => h)

/-- A check that reads nothing of the run, and the value that it gave. -/
theorem ofExcept_knowing {C : Run ω → Prop} {e : Except Failure α} :
    Triple w C (Action.ofExcept e) (fun a r => e = .ok a ∧ C r) (fun _ => C) :=
  ofExcept (fun _ ha _ h => ⟨ha, h⟩) (fun _ _ _ h => h)

theorem ofOption {o : Option α} {failure : Failure} (some : ∀ a, o = .some a → ∀ r, P r → Q a r)
    (none : o = .none → ∀ r, P r → E failure r) :
    Triple w P (Action.ofOption failure o) Q E := by
  cases o with
  | some a => exact some a rfl
  | none => exact none rfl

theorem ask {q : Question} {Q : q.Answer → Run ω → Prop}
    (h : ∀ r, P r →
      Q (w q r.memory).1 { r with memory := (w q r.memory).2, asked := r.asked ++ [q] }) :
    Triple w P (Action.ask q) Q E :=
  h

theorem store {Q : Store → Run ω → Prop} (h : ∀ r, P r → Q r.session.working r) :
    Triple w P Action.store Q E :=
  h

theorem edit {f : Session → Session} {Q : Unit → Run ω → Prop}
    (h : ∀ r, P r → Q () { r with session := f r.session }) : Triple w P (Action.edit f) Q E :=
  h

/-- A change of the session before a failure is all that there is behind it. -/
theorem edit_fail {f : Session → Session} {failure : Failure}
    (h : ∀ r, P r → E failure { r with session := f r.session }) :
    Triple w P (Action.edit f >>= fun _ => Action.fail failure) Q E :=
  h

theorem unblocked {Q : Unit → Run ω → Prop}
    (free : ∀ r, P r → r.session.blocked = none → Q () r)
    (blocked : ∀ r message, P r → r.session.blocked = some message →
      E (.rollbackPending message) r) : Triple w P Action.unblocked Q E := by
  intro r hP
  cases h : r.session.blocked with
  | none =>
      rw [Action.unblocked_of_open h]
      exact free r hP h
  | some message =>
      rw [Action.unblocked_of_blocked h]
      exact blocked r message hP h

theorem attempt {x : Action ω α} {Q : Except Failure α → Run ω → Prop}
    {F : Failure → Run ω → Prop}
    (hx : Triple w P x (fun a => Q (.ok a)) (fun failure => Q (.error failure))) :
    Triple w P x.attempt Q F := by
  intro r hP
  have := hx r hP
  rw [Action.attempt_apply]
  rcases h : x w r with ⟨failure | a, r'⟩ <;> simpa only [h] using this

theorem onFailure {F : Failure → Run ω → Prop} {x : Action ω α} {f : Session → Session}
    (hx : Triple w P x Q F)
    (h : ∀ failure r, F failure r → E failure { r with session := f r.session }) :
    Triple w P (x.onFailure f) Q E := by
  intro r hP
  have hr := hx r hP
  unfold Action.onFailure
  rcases hx : x w r with ⟨failure | a, r'⟩ <;> simp only [hx] at hr
  · exact h failure r' hr
  · exact hr

end Triple

/-! ## Actions that never fail -/

/-- No failure is possible. -/
abbrev Never : Failure → Run ω → Prop :=
  fun _ _ => False

namespace Triple

variable {P : Run ω → Prop} {Q : α → Run ω → Prop} {E : Failure → Run ω → Prop}

theorem succeeds {x : Action ω α} (h : Triple w P x Q Never) {r : Run ω} (hP : P r) :
    ∃ a, (x w r).1 = .ok a ∧ Q a (x w r).2 := by
  have hx := h r hP
  rcases hrun : x w r with ⟨failure | a, r'⟩ <;> rw [hrun] at hx
  · exact absurd hx id
  · exact ⟨a, rfl, hx⟩

theorem fails {x : Action ω α} (h : Triple w P x (fun _ _ => False) E) {r : Run ω} (hP : P r) :
    ∃ failure, (x w r).1 = .error failure ∧ E failure (x w r).2 := by
  have hx := h r hP
  rcases hrun : x w r with ⟨failure | a, r'⟩ <;> rw [hrun] at hx
  · exact ⟨failure, rfl, hx⟩
  · exact absurd hx id

/-- An action that never fails may stand before any other. -/
theorem of_never {x : Action ω α} (h : Triple w P x Q Never) : Triple w P x Q E :=
  h.mono_fail fun _ _ hnever => absurd hnever id

/-- Where an action gives one value only, what comes next goes on from that value. -/
theorem bind_known {R : Run ω → Prop} {Q : β → Run ω → Prop} {x : Action ω α}
    {f : α → Action ω β} {a : α} (hx : Triple w P x (fun b r => b = a ∧ R r) Never)
    (hf : Triple w R (f a) Q E) : Triple w P (x >>= f) Q E := by
  refine hx.of_never.bind fun b => of_fact ?_
  rintro rfl
  exact hf

end Triple

/-! ## Assertions about runs -/

/-- What is known of the memory of the surroundings and of the questions so far. -/
abbrev Trail (ω : Type) : Type :=
  ω → List Question → Prop

namespace Run

variable {σ : Session} {I : Trail ω} {r : Run ω}

/-- The session stands at `σ`. -/
def At (σ : Session) (I : Trail ω) (r : Run ω) : Prop :=
  r.session = σ ∧ I r.memory r.asked

/-- The session stands at `σ`, or its edits were taken back from there. -/
def Near (σ : Session) (I : Trail ω) (r : Run ω) : Prop :=
  (r.session = σ ∨ r.session = σ.rollback) ∧ I r.memory r.asked

/-- Whatever became of its edits, the session saved none of them. -/
def Kept (saved : Store) (I : Trail ω) (r : Run ω) : Prop :=
  r.session.saved = saved ∧ I r.memory r.asked

theorem At.near (h : r.At σ I) : r.Near σ I :=
  ⟨.inl h.1, h.2⟩

/-- A session without edits has nothing that could be taken back. -/
theorem Near.at_fresh {saved : Store} (h : r.Near (.fresh saved) I) : r.At (.fresh saved) I :=
  ⟨h.1.elim id id, h.2⟩

theorem Near.saved (h : r.Near σ I) : r.session.saved = σ.saved := by
  rcases h.1 with hs | hs <;> rw [hs]
  rfl

theorem At.kept (h : r.At σ I) : r.Kept σ.saved I :=
  ⟨congrArg Session.saved h.1, h.2⟩

theorem Near.kept (h : r.Near σ I) : r.Kept σ.saved I :=
  ⟨h.saved, h.2⟩

end Run

theorem Triple.near {P : Run ω → Prop} {Q : α → Run ω → Prop} {x : Action ω α} {σ : Session}
    {I : Trail ω} (h : Triple w P x Q fun _ => Run.At σ I) : Triple w P x Q fun _ => Run.Near σ I :=
  h.mono_fail fun _ _ hr => hr.near

theorem Triple.kept {P : Run ω → Prop} {Q : α → Run ω → Prop} {x : Action ω α} {σ : Session}
    {I : Trail ω} (h : Triple w P x Q fun _ => Run.Near σ I) :
    Triple w P x Q fun _ => Run.Kept σ.saved I :=
  h.mono_fail fun _ _ hr => hr.kept

/-- Questions of a sort leave alone what is known. -/
def Surroundings.Keeps (w : Surroundings ω) (S : Question → Prop) (I : Trail ω) : Prop :=
  ∀ q, S q → ∀ m asked, I m asked → I (w q m).2 (asked ++ [q])

namespace Question

/-- What is asked while the desk's own table is read. -/
def IsLookup : Question → Prop
  | .lookup | .pause _ => True
  | _ => False

/-- What only colleagues are asked for. -/
def IsService : Question → Prop
  | .buyerUser _ | .buyerCompany _ | .lotSuppliers _ _ | .newAssessment _ _ _ _
  | .assessment _ _ | .criteria _ _ => True
  | _ => False

end Question

/-- A question that leaves alone what is known may be asked at any time, whatever the answer. -/
theorem Triple.ask_keeping {S : Question → Prop} {σ : Session} {I : Trail ω}
    {E : Failure → Run ω → Prop} {q : Question} (hI : w.Keeps S I) (hq : S q) :
    Triple w (Run.At σ I) (Action.ask q) (fun _ => Run.At σ I) E :=
  Triple.ask fun _ h => ⟨h.1, hI q hq _ _ h.2⟩

end Desk
end TenderDesk
