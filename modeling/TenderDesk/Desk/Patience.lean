/-!
# Patience — calls that are repeated while their outcome is transient

Repeating is the work of a library. `Retrier` is what such a library offers, `Retrier.Documented`
says what it promises, and `Retrier.standard` is one that keeps its promises.

`retry` sets the rules: how many attempts there are, that the first pause takes a tenth of a second,
that each takes twice as long as the one before, and none more than two seconds.
-/

namespace TenderDesk
namespace Patience

/-- A library that repeats calls. Attempts are counted from one, and times are in milliseconds. -/
structure Retrier where
  /-- Rules that tell after which attempt to stop. -/
  Stop : Type
  stopAfterAttempt : Int → Stop
  stops : Stop → (attempt : Nat) → Bool
  /-- Rules that tell how long to wait after an attempt. -/
  Wait : Type
  waitExponential : (multiplier least greatest : Nat) → Wait
  pause : Wait → (attempt : Nat) → Nat
  /-- Makes an attempt of a call and those that follow it, asleep between them, and gives the
  outcome of the last one. -/
  run : {m : Type → Type} → [Monad m] → {α : Type} → Stop → Wait → (transient : α → Bool) →
    (sleep : Nat → m Unit) → (call : m α) → (attempt : Nat) → m α

/-- What a library that repeats calls says about itself. -/
structure Retrier.Documented (R : Retrier) : Prop where
  /-- It stops when the attempt that was made is the last one, or is beyond it. -/
  stops_iff : ∀ (attempts : Int) (attempt : Nat),
    R.stops (R.stopAfterAttempt attempts) attempt = true ↔ attempts ≤ attempt
  /-- The wait is the multiplier times a power of two, from the first one on, within its limits. -/
  pause_eq : ∀ multiplier least greatest attempt : Nat,
    R.pause (R.waitExponential multiplier least greatest) attempt =
      max least (min (multiplier * Nat.pow 2 (attempt - 1)) greatest)
  /-- The rules are asked about the attempt that was made, and only if its outcome is transient. -/
  run_eq : ∀ {m : Type → Type} [Monad m] [LawfulMonad m] {α : Type} (stop : R.Stop) (wait : R.Wait)
    (transient : α → Bool) (sleep : Nat → m Unit) (call : m α) (attempt : Nat),
    R.run stop wait transient sleep call attempt = do
      let outcome ← call
      if transient outcome && !R.stops stop attempt then
        sleep (R.pause wait attempt)
        R.run stop wait transient sleep call (attempt + 1)
      else pure outcome

/-- The pause after an attempt. -/
def Retrier.pauseAfter (R : Retrier) (attempt : Nat) : Nat :=
  R.pause (R.waitExponential 100 100 2000) attempt

section

variable {m : Type → Type} [Monad m] {α : Type}

/-- The first outcome that is not transient, or the last one that there is patience for. -/
def retry (R : Retrier) (attempts : Int) (transient : α → Bool) (sleep : Nat → m Unit)
    (call : m α) : m α :=
  R.run (R.stopAfterAttempt attempts) (R.waitExponential 100 100 2000) transient sleep call 1

/-! ## A library -/

/-- A number of attempts after which to stop. -/
structure Limit where
  attempts : Int

/-- Pauses that double, within limits. -/
structure Backoff where
  multiplier : Nat
  least : Nat
  greatest : Nat

def Backoff.pause (b : Backoff) (attempt : Nat) : Nat :=
  max b.least (min (b.multiplier * Nat.pow 2 (attempt - 1)) b.greatest)

/-- Makes an attempt, and up to `again` more of them. -/
def attemptFrom (pause : Nat → Nat) (transient : α → Bool) (sleep : Nat → m Unit) (call : m α) :
    (again attempt : Nat) → m α
  | 0, _ => call
  | again + 1, attempt => do
      let outcome ← call
      if transient outcome then
        sleep (pause attempt)
        attemptFrom pause transient sleep call again (attempt + 1)
      else pure outcome

/-- One round of a repetition with a limit. -/
theorem attemptFrom_eq [LawfulMonad m] (pause : Nat → Nat) (transient : α → Bool)
    (sleep : Nat → m Unit) (call : m α) (limit : Int) (attempt : Nat) :
    attemptFrom pause transient sleep call (limit.toNat - attempt) attempt = (do
      let outcome ← call
      if transient outcome && !decide (limit ≤ attempt) then
        sleep (pause attempt)
        attemptFrom pause transient sleep call (limit.toNat - (attempt + 1)) (attempt + 1)
      else pure outcome) := by
  cases hleft : limit.toNat - attempt with
  | zero =>
      -- The outcome of the last attempt is told as it is.
      have hlast : limit ≤ attempt := by omega
      simp [attemptFrom, hlast]
  | succ again =>
      have hmore : ¬limit ≤ attempt := by omega
      have hagain : limit.toNat - (attempt + 1) = again := by omega
      simp [attemptFrom, hmore, hagain]

end

/-- A library whose attempts are bounded by a number, and by nothing else. -/
def Retrier.standard : Retrier where
  Stop := Limit
  stopAfterAttempt := Limit.mk
  stops limit attempt := limit.attempts ≤ attempt
  Wait := Backoff
  waitExponential := Backoff.mk
  pause := Backoff.pause
  run limit wait transient sleep call attempt :=
    attemptFrom wait.pause transient sleep call (limit.attempts.toNat - attempt) attempt

theorem Retrier.standard_documented : Retrier.standard.Documented where
  stops_iff _ _ := decide_eq_true_iff
  pause_eq _ _ _ _ := rfl
  run_eq limit wait transient sleep call attempt :=
    attemptFrom_eq wait.pause transient sleep call limit.attempts attempt

/-! ## Repeating with the library -/

/-- The pauses of the library under the rules of `retry`. -/
def pauseAfter (attempt : Nat) : Nat :=
  Retrier.standard.pauseAfter attempt

/-- How many calls are made at most; one is always made. -/
def calls (attempts : Int) : Nat :=
  max attempts.toNat 1

theorem retry_standard {m : Type → Type} [Monad m] {α : Type} (attempts : Int)
    (transient : α → Bool) (sleep : Nat → m Unit) (call : m α) :
    retry .standard attempts transient sleep call =
      attemptFrom pauseAfter transient sleep call (calls attempts - 1) 1 := by
  have hagain : attempts.toNat - 1 = calls attempts - 1 := by
    unfold calls
    omega
  rw [← hagain]
  rfl

end Patience
end TenderDesk
