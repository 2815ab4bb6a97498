import TenderDesk.Desk.Surroundings
import TenderDesk.Store.Basic

/-!
# Action — what an operation does, step by step

* A `Run` is the state of things while an operation goes on: the session, the memory of the
  surroundings, and all questions asked so far.
* An `Action` turns a run into a result or a failure and a further run. What it did before a
  failure stays done, edits of the session included.
-/

namespace TenderDesk
namespace Desk

structure Run (ω : Type) where
  session : Session
  memory : ω
  asked : List Question := []

/-- A run that begins with a saved store. -/
def Run.start {ω : Type} (saved : Store) (memory : ω) : Run ω :=
  ⟨.fresh saved, memory, []⟩

def Action (ω α : Type) : Type :=
  Surroundings ω → Run ω → Except Failure α × Run ω

namespace Action

variable {ω α β : Type}

protected def pure (a : α) : Action ω α :=
  fun _ r => (.ok a, r)

protected def bind (x : Action ω α) (f : α → Action ω β) : Action ω β :=
  fun s r => match x s r with
    | (.ok a, r) => f a s r
    | (.error failure, r) => (.error failure, r)

instance : Monad (Action ω) where
  pure := Action.pure
  bind := Action.bind

def fail (failure : Failure) : Action ω α :=
  fun _ r => (.error failure, r)

/-- Goes on with a value, or fails with the failure that stands in its place. -/
def ofExcept : Except Failure α → Action ω α
  | .ok a => Action.pure a
  | .error failure => fail failure

/-- Goes on with a value, or fails when there is none. -/
def ofOption (failure : Failure) : Option α → Action ω α
  | some a => Action.pure a
  | none => fail failure

/-- The result of an action, or its failure, as a value. -/
def attempt (x : Action ω α) : Action ω (Except Failure α) :=
  fun s r => match x s r with
    | (result, r) => (.ok result, r)

/-- Asks the surroundings, and remembers that it did. -/
def ask (q : Question) : Action ω q.Answer :=
  fun s r => match s q r.memory with
    | (answer, memory) => (.ok answer, { r with memory := memory, asked := r.asked ++ [q] })

/-- The store as the session sees it. -/
def store : Action ω Store :=
  fun _ r => (.ok r.session.working, r)

/-- Changes the session without asking anything. -/
def edit (f : Session → Session) : Action ω Unit :=
  fun _ r => (.ok (), { r with session := f r.session })

/-- Goes on in a session that nothing blocks. -/
def unblocked : Action ω Unit :=
  fun _ r => match r.session.blocked with
    | none => (.ok (), r)
    | some message => (.error (.rollbackPending message), r)

/-- Runs an action and, when it fails, changes the session before failing the same way. -/
def onFailure (x : Action ω α) (f : Session → Session) : Action ω α :=
  fun s r => match x s r with
    | (.ok a, r) => (.ok a, r)
    | (.error failure, r) => (.error failure, { r with session := f r.session })

/-! ## Laws -/

@[simp] theorem pure_apply (a : α) (s : Surroundings ω) (r : Run ω) :
    (pure a : Action ω α) s r = (.ok a, r) := rfl

@[simp] theorem bind_apply (x : Action ω α) (f : α → Action ω β) (s : Surroundings ω)
    (r : Run ω) :
    (x >>= f) s r = match x s r with
      | (.ok a, r) => f a s r
      | (.error failure, r) => (.error failure, r) := rfl

@[simp] theorem fail_apply (failure : Failure) (s : Surroundings ω) (r : Run ω) :
    (fail failure : Action ω α) s r = (.error failure, r) := rfl

@[simp] theorem ofExcept_ok (a : α) : (ofExcept (.ok a) : Action ω α) = pure a := rfl

@[simp] theorem ofExcept_error (failure : Failure) :
    (ofExcept (.error failure) : Action ω α) = fail failure := rfl

@[simp] theorem ofOption_some (failure : Failure) (a : α) :
    (ofOption failure (some a) : Action ω α) = pure a := rfl

@[simp] theorem ofOption_none (failure : Failure) :
    (ofOption failure none : Action ω α) = fail failure := rfl

@[simp] theorem attempt_apply (x : Action ω α) (s : Surroundings ω) (r : Run ω) :
    x.attempt s r = (.ok (x s r).1, (x s r).2) := rfl

@[simp] theorem ask_apply (q : Question) (s : Surroundings ω) (r : Run ω) :
    ask q s r =
      (.ok (s q r.memory).1, { r with memory := (s q r.memory).2, asked := r.asked ++ [q] }) := rfl

@[simp] theorem store_apply (s : Surroundings ω) (r : Run ω) :
    store s r = (.ok r.session.working, r) := rfl

@[simp] theorem edit_apply (f : Session → Session) (s : Surroundings ω) (r : Run ω) :
    edit f s r = (.ok (), { r with session := f r.session }) := rfl

theorem unblocked_of_open {s : Surroundings ω} {r : Run ω} (h : r.session.blocked = none) :
    unblocked s r = (.ok (), r) := by
  simp [unblocked, h]

theorem unblocked_of_blocked {s : Surroundings ω} {r : Run ω} {message : String}
    (h : r.session.blocked = some message) :
    unblocked s r = (.error (.rollbackPending message), r) := by
  simp [unblocked, h]

/-- Two actions in a row succeed exactly when both do, the second from where the first ended. -/
theorem bind_apply_eq_ok_iff {x : Action ω α} {f : α → Action ω β} {s : Surroundings ω}
    {r r' : Run ω} {b : β} :
    (x >>= f) s r = (.ok b, r') ↔ ∃ a m, x s r = (.ok a, m) ∧ f a s m = (.ok b, r') := by
  rw [bind_apply]
  rcases x s r with ⟨_ | a, m⟩
  · simp
  · constructor
    · intro h
      exact ⟨a, m, rfl, h⟩
    · rintro ⟨_, _, h, hf⟩
      cases h
      exact hf

/-- Two actions in a row fail when the first does, or when the second does after it. -/
theorem bind_apply_eq_error_iff {x : Action ω α} {f : α → Action ω β} {s : Surroundings ω}
    {r r' : Run ω} {failure : Failure} :
    (x >>= f) s r = (.error failure, r') ↔ x s r = (.error failure, r') ∨
      ∃ a m, x s r = (.ok a, m) ∧ f a s m = (.error failure, r') := by
  rw [bind_apply]
  rcases x s r with ⟨_ | a, m⟩
  · simp
  · constructor
    · intro h
      exact .inr ⟨a, m, rfl, h⟩
    · rintro (h | ⟨_, _, h, hf⟩)
      · cases h
      · cases h
        exact hf

theorem onFailure_apply_eq_ok {x : Action ω α} {f : Session → Session} {s : Surroundings ω}
    {r r' : Run ω} {a : α} (h : x.onFailure f s r = (.ok a, r')) : x s r = (.ok a, r') := by
  unfold onFailure at h
  rcases hx : x s r with ⟨failure | b, m⟩ <;> simp only [hx] at h
  · cases h
  · exact h

theorem onFailure_apply_eq_error {x : Action ω α} {f : Session → Session} {s : Surroundings ω}
    {r r' : Run ω} {failure : Failure} (h : x.onFailure f s r = (.error failure, r')) :
    ∃ m, x s r = (.error failure, m) ∧ r'.session = f m.session := by
  unfold onFailure at h
  rcases hx : x s r with ⟨failure | b, m⟩ <;> simp only [hx] at h
  · cases h
    exact ⟨m, rfl, rfl⟩
  · cases h

instance : LawfulMonad (Action ω) := LawfulMonad.mk' _
  (fun x => by
    funext s r
    show Action.bind x (fun a => Action.pure a) s r = x s r
    unfold Action.bind
    rcases x s r with ⟨_ | _, _⟩ <;> rfl)
  (fun a f => rfl)
  (fun x f g => by
    funext s r
    show Action.bind (Action.bind x f) g s r = Action.bind x (fun a => Action.bind (f a) g) s r
    unfold Action.bind
    rcases x s r with ⟨_ | _, _⟩ <;> rfl)

end Action
end Desk
end TenderDesk
