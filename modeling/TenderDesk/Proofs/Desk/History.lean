import TenderDesk.Proofs.Desk.Turn

/-!
# History — calls one after the other, each in a session of its own

* `World` is what lasts from one visit to the next: the saved store, and the memory of the
  surroundings. `World.opening` has no events yet.
* `World.visits` is the world after some calls.
* What every turn preserves holds in all worlds that are ever reached (`visits_induction`).
-/

namespace TenderDesk
namespace Desk

structure World (ω : Type) where
  saved : Store
  memory : ω

namespace World

variable {ω : Type} {s : Settings} {w : Surroundings ω}

/-- A world without events. -/
def opening (projects : List Project) (links : List Link) (m : ω) : World ω :=
  ⟨{ projects, links }, m⟩

/-- How a visit ends. -/
def outcome (s : Settings) (w : Surroundings ω) (x : World ω) (call : Call) :
    Except Failure call.Result × Run ω :=
  call.visit s w x.saved x.memory

/-- The world after a visit. -/
def visit (s : Settings) (w : Surroundings ω) (x : World ω) (call : Call) : World ω :=
  ⟨(x.outcome s w call).2.session.saved, (x.outcome s w call).2.memory⟩

/-- The world after some visits. -/
def visits (s : Settings) (w : Surroundings ω) (x : World ω) (calls : List Call) : World ω :=
  calls.foldl (visit s w) x

/-- The changes that a visit makes on the platform. -/
def writes (s : Settings) (w : Surroundings ω) (x : World ω) (call : Call) : List Write :=
  w.writes x.memory (x.outcome s w call).2.asked

/-- The visit failed and saved nothing, and the last thing it asked was whether the store takes a
commit. -/
def CommitFails (s : Settings) (w : Surroundings ω) (x : World ω) (call : Call) : Prop :=
  (x.outcome s w call).1.isOk = false ∧ TakenBack x.saved (x.outcome s w call).2

instance (x : World ω) (call : Call) : Decidable (x.CommitFails s w call) :=
  inferInstanceAs (Decidable (_ ∧ _))

/-- No commit fails in any of the visits. -/
def Commits (s : Settings) (w : Surroundings ω) : World ω → List Call → Prop
  | _, [] => True
  | x, call :: calls => ¬x.CommitFails s w call ∧ Commits s w (x.visit s w call) calls

instance decidableCommits : (x : World ω) → (calls : List Call) → Decidable (x.Commits s w calls)
  | _, [] => isTrue trivial
  | x, call :: calls =>
      have := decidableCommits (x.visit s w call) calls
      inferInstanceAs (Decidable (_ ∧ _))

theorem visits_induction {I : World ω → Prop}
    (step : ∀ x call, I x → I (x.visit s w call)) {x : World ω} (hx : I x) (calls : List Call) :
    I (x.visits s w calls) := by
  -- Each call starts from the world that the one before it left.
  induction calls generalizing x with
  | nil => exact hx
  | cons call calls ih => exact ih (step x call hx)

/-- A visit makes a turn of the saved store, or its commit fails and nothing is saved. -/
theorem visit_cases (s : Settings) (w : Surroundings ω) (x : World ω) (call : Call) :
    Turn s x.saved call (x.writes s w call) (x.visit s w call).saved ∧
        (x.visit s w call).memory = w.after x.memory (x.outcome s w call).2.asked ∨
      x.CommitFails s w call ∧ (x.visit s w call).saved = x.saved := by
  rcases visit_turn s w call x.saved x.memory with
    ⟨ws, hturn, hmemory, hwrites⟩ | ⟨⟨failure, herror⟩, hback⟩
  · left
    have hws : x.writes s w call = ws := hwrites
    rw [hws]
    exact ⟨hturn, hmemory⟩
  · have hfailed : (x.outcome s w call).1.isOk = false := by
      unfold outcome
      rw [herror]
      rfl
    exact .inr ⟨⟨hfailed, hback⟩, hback.1⟩

/-- A call that never fails, as a visit to a world. -/
theorem visit_of_triple (x : World ω) (call : Call) {I J : Trail ω} {saved : Store}
    {told : call.Result → Prop} (hI : I x.memory [])
    (h : Triple w (Run.At (.fresh x.saved) I) (call.perform s)
      (fun a r => told a ∧ r.At (.fresh saved) J) Never) :
    ∃ a, (x.outcome s w call).1 = .ok a ∧ told a ∧ (x.visit s w call).saved = saved ∧
      J (x.visit s w call).memory (x.outcome s w call).2.asked := by
  have start : (Run.start x.saved x.memory).At (.fresh x.saved) I := ⟨rfl, hI⟩
  obtain ⟨a, hok, htold, hsession, hJ⟩ := h.succeeds start
  exact ⟨a, hok, htold, congrArg Session.saved hsession, hJ⟩

end World
end Desk
end TenderDesk
