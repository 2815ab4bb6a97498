import Mathlib.Logic.Relation
import TenderDesk.Calendar.Moment
import TenderDesk.Proofs.Calendar.Day

/-!
# Moment — the same time on different clocks

* `Moment.Restates` tells a time anew: with the offset of universal time that was meant, or by a
  clock that is a second further ahead, on the next day where it is past midnight there.
* `Moment.SameTime` allows any number of such steps in both directions. Moments of the same time
  have the same instant, and moments of the calendar with the same instant tell the same time
  (`sameTime_iff`).
* Of two moments on one clock, the one with the later date, or the later time of day, has the larger
  instant (`instant_lt_iff`).
-/

namespace TenderDesk
namespace Calendar

def microsPerDay : Nat :=
  secondsPerDay * microsPerSecond

namespace Moment

/-- A date of the calendar and a time of that day. -/
structure Valid (m : Moment) : Prop where
  day : m.day.Valid
  micros : m.micros < microsPerDay

/-- The microseconds that a clock has counted, less those that it is ahead. -/
theorem instant_eq (m : Moment) :
    @Eq Int m.instant
      ((m.day.number * microsPerDay + m.micros : Nat) - m.offset.getD 0 * microsPerSecond) := by
  simp only [instant, Instant, microsPerDay, secondsPerDay, microsPerSecond]
  omega

/-! ## Clocks -/

inductive Restates : Moment → Moment → Prop
  /-- Without an offset, universal time is meant. -/
  | universal (day : Day) (micros : Nat) : Restates ⟨day, micros, none⟩ ⟨day, micros, some 0⟩
  /-- A clock that is a second further ahead. -/
  | ahead (day : Day) {micros : Nat} (offset : Int) (h : micros + microsPerSecond < microsPerDay) :
      Restates ⟨day, micros, some offset⟩ ⟨day, micros + microsPerSecond, some (offset + 1)⟩
  /-- A clock that is a second further ahead, where it is past midnight. -/
  | midnight {day : Day} {micros : Nat} (offset : Int) (hday : day.Valid)
      (h : microsPerDay ≤ micros + microsPerSecond) :
      Restates ⟨day, micros, some offset⟩
        ⟨day.next, micros + microsPerSecond - microsPerDay, some (offset + 1)⟩

/-- The same time, whatever the clocks are that tell it. -/
def SameTime : Moment → Moment → Prop :=
  Relation.EqvGen Restates

variable {m m' : Moment}

theorem Restates.instant_eq (h : m.Restates m') : m.instant = m'.instant := by
  cases h with
  | universal day micros => rfl
  | ahead day offset h =>
      rw [Moment.instant_eq, Moment.instant_eq]
      simp only [Instant, Option.getD_some, microsPerSecond]
      omega
  | midnight offset hday h =>
      have hnext := Day.number_next hday
      rw [Moment.instant_eq, Moment.instant_eq]
      simp only [Instant, Option.getD_some, hnext, microsPerDay, secondsPerDay, microsPerSecond]
        at h ⊢
      omega

theorem SameTime.instant_eq (h : m.SameTime m') : m.instant = m'.instant := by
  induction h with
  | rel _ _ h => exact h.instant_eq
  | refl _ => rfl
  | symm _ _ _ ih => exact ih.symm
  | trans _ _ _ _ _ ih ih' => exact ih.trans ih'

/-- Date and time of day are found in the microseconds that have passed. -/
theorem eq_of_passed {d e : Day} {t u : Nat} {o : Option Int} (hm : Valid ⟨d, t, o⟩)
    (hm' : Valid ⟨e, u, o⟩) (h : d.number * microsPerDay + t = e.number * microsPerDay + u) :
    (⟨d, t, o⟩ : Moment) = ⟨e, u, o⟩ := by
  have ht : t < microsPerDay := hm.micros
  have hu : u < microsPerDay := hm'.micros
  have hboth : d.number = e.number ∧ t = u := by
    simp only [microsPerDay, secondsPerDay, microsPerSecond] at *
    omega
  have hday : d = e := Day.eq_of_number_eq hm.day hm'.day hboth.1
  rw [hday, hboth.2]

/-- With the same instant, a clock that is some seconds further ahead is reached second by
second. -/
theorem sameTime_of_ahead (seconds : Nat) {d e : Day} {t u : Nat} {o : Int}
    (hm : Valid ⟨d, t, some o⟩) (hm' : Valid ⟨e, u, some (o + seconds)⟩)
    (h : d.number * microsPerDay + t + seconds * microsPerSecond = e.number * microsPerDay + u) :
    SameTime ⟨d, t, some o⟩ ⟨e, u, some (o + seconds)⟩ := by
  induction seconds generalizing d t o with
  | zero =>
      have hclock : o + (0 : Nat) = o := Int.add_zero o
      rw [hclock] at hm' ⊢
      rw [Nat.zero_mul, Nat.add_zero] at h
      exact eq_of_passed hm hm' h ▸ .refl _
  | succ seconds ih =>
      have hclock : o + (seconds + 1 : Nat) = o + 1 + seconds := by omega
      rw [hclock] at hm' ⊢
      rw [Nat.add_mul, Nat.one_mul] at h
      by_cases hmidnight : t + microsPerSecond < microsPerDay
      · refine .trans _ _ _ (.rel _ _ (.ahead d o hmidnight)) (ih ⟨hm.day, hmidnight⟩ hm' ?_)
        omega
      · have hpast : microsPerDay ≤ t + microsPerSecond := Nat.le_of_not_lt hmidnight
        have ht : t < microsPerDay := hm.micros
        have hu : u < microsPerDay := hm'.micros
        have hshort : microsPerSecond < microsPerDay := by decide
        -- The other clock has passed this midnight as well, so there is a next day.
        have hlater : d.number < e.number := by
          simp only [microsPerDay, secondsPerDay, microsPerSecond] at *
          omega
        refine .trans _ _ _ (.rel _ _ (.midnight o hm.day hpast))
          (ih ⟨Day.valid_next hm.day hm'.day hlater, ?_⟩ hm' ?_)
        · show t + microsPerSecond - microsPerDay < microsPerDay
          omega
        · have hnext : d.next.number = d.number + 1 := Day.number_next hm.day
          rw [hnext, Nat.add_mul, Nat.one_mul]
          omega

/-- A clock that shows universal time, where none is named. -/
def onClock (m : Moment) : Moment :=
  { m with offset := some (m.offset.getD 0) }

theorem sameTime_onClock (m : Moment) : m.SameTime m.onClock := by
  rcases m with ⟨day, micros, _ | offset⟩
  · exact .rel _ _ (.universal day micros)
  · exact .refl _

theorem sameTime_of_instant_eq (hm : m.Valid) (hm' : m'.Valid) (h : m.instant = m'.instant) :
    m.SameTime m' := by
  have hahead : ∀ {m m' : Moment}, m.Valid → m'.Valid → m.instant = m'.instant →
      m.offset.getD 0 ≤ m'.offset.getD 0 → m.SameTime m' := by
    intro m m' hm hm' h hle
    obtain ⟨seconds, hseconds⟩ := Int.le.dest hle
    have hclocks : SameTime m.onClock m'.onClock := by
      unfold onClock
      rw [← hseconds]
      refine sameTime_of_ahead seconds ⟨hm.day, hm.micros⟩ ⟨hm'.day, hm'.micros⟩ ?_
      rw [Moment.instant_eq, Moment.instant_eq, ← hseconds] at h
      simp only [Instant, microsPerDay, secondsPerDay, microsPerSecond] at *
      omega
    exact .trans _ _ _ (sameTime_onClock m) (.trans _ _ _ hclocks (.symm _ _ (sameTime_onClock m')))
  rcases Int.le_total (m.offset.getD 0) (m'.offset.getD 0) with hle | hle
  · exact hahead hm hm' h hle
  · exact .symm _ _ (hahead hm' hm h.symm hle)

/-- Moments of the calendar tell the same time exactly when they have the same instant. -/
theorem sameTime_iff (hm : m.Valid) (hm' : m'.Valid) : m.SameTime m' ↔ m.instant = m'.instant :=
  ⟨SameTime.instant_eq, sameTime_of_instant_eq hm hm'⟩

/-! ## Order -/

/-- On one clock, the later date or the later time of the same day is later. -/
theorem instant_lt_iff (hm : m.Valid) (hm' : m'.Valid) (hclock : m.offset = m'.offset) :
    m.instant < m'.instant ↔ m.day.Before m'.day ∨ m.day = m'.day ∧ m.micros < m'.micros := by
  have ht := hm.micros
  have hu := hm'.micros
  rw [← Day.number_lt_iff hm.day hm'.day, Moment.instant_eq, Moment.instant_eq, hclock]
  have hday : m.day = m'.day ↔ m.day.number = m'.day.number :=
    ⟨congrArg Day.number, Day.eq_of_number_eq hm.day hm'.day⟩
  rw [hday]
  simp only [Instant, microsPerDay, secondsPerDay, microsPerSecond] at *
  omega

end Moment
end Calendar
end TenderDesk
