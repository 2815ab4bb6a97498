import Mathlib.Algebra.Order.Ring.Nat
import Mathlib.Data.Nat.Init
import TenderDesk.Calendar.Day

/-!
# Day — the calendar that day numbers count

* `Day.next` is the day after a day, over the ends of months and years, and `Day.Before` the order
  of dates.
* Day numbers count the days: the first day has the number zero, the day after one has the next
  number (`number_next`), and later days have larger numbers (`number_lt_iff`). So no two dates
  share a number (`eq_of_number_eq`).
* Every number of a day before the year 10000 is that of a date (`valid_ofNumber`).
-/

namespace TenderDesk
namespace Calendar

/-! ## Years -/

def yearLength (year : Nat) : Nat :=
  if isLeap year then 366 else 365

theorem isLeap_iff (year : Nat) :
    isLeap year = true ↔ 4 ∣ year ∧ (¬100 ∣ year ∨ 400 ∣ year) := by
  simp [isLeap, Nat.dvd_iff_mod_eq_zero]

theorem daysBefore_succ {year : Nat} (h : 1 ≤ year) :
    daysBefore (year + 1) = daysBefore year + yearLength year := by
  obtain ⟨y, rfl⟩ := Nat.exists_eq_add_of_le' h
  have hcentury : 400 ∣ y + 1 → 100 ∣ y + 1 := Nat.dvd_trans (by decide)
  have hfourth : 100 ∣ y + 1 → 4 ∣ y + 1 := Nat.dvd_trans (by decide)
  have hfewer : y / 100 ≤ y / 4 := by omega
  -- A quotient grows exactly where the year is a multiple, so the multiples decide every case.
  simp only [daysBefore, yearLength, Nat.add_sub_cancel, isLeap_iff, Nat.succ_div]
  by_cases h4 : 4 ∣ y + 1 <;> by_cases h100 : 100 ∣ y + 1 <;> by_cases h400 : 400 ∣ y + 1 <;>
    simp_all <;> omega

theorem daysBefore_le {year later : Nat} (hyear : 1 ≤ year) (h : year < later) :
    daysBefore year + yearLength year ≤ daysBefore later := by
  induction later, h using Nat.le_induction with
  | base => exact (daysBefore_succ hyear).ge
  | succ later hle ih =>
      have hgrows := daysBefore_succ (Nat.le_trans hyear (Nat.le_of_succ_le hle))
      omega

/-! ## Months -/

/-- The days of a month, counted from one. -/
def monthLength (leap : Bool) (month : Nat) : Nat :=
  (monthLengths leap).getD (month - 1) 0

/-- Days of a year before a month. -/
def daysBeforeMonth (leap : Bool) (month : Nat) : Nat :=
  ((monthLengths leap).take (month - 1)).foldl (· + ·) 0

theorem monthLength_le (leap : Bool) {month : Nat} (h : month ≤ 12) :
    monthLength leap month ≤ 31 := by
  revert month leap
  decide

theorem daysBeforeMonth_succ (leap : Bool) {month : Nat} (hfirst : 1 ≤ month) (hlast : month ≤ 12) :
    daysBeforeMonth leap (month + 1) = daysBeforeMonth leap month + monthLength leap month := by
  revert month leap
  decide

theorem daysBeforeMonth_end (year : Nat) : daysBeforeMonth (isLeap year) 13 = yearLength year := by
  unfold yearLength
  cases isLeap year <;> rfl

theorem daysBeforeMonth_le (leap : Bool) {month later : Nat} (hfirst : 1 ≤ month)
    (h : month < later) (hlast : later ≤ 13) :
    daysBeforeMonth leap month + monthLength leap month ≤ daysBeforeMonth leap later := by
  induction later, h using Nat.le_induction with
  | base => exact (daysBeforeMonth_succ leap hfirst (by omega)).ge
  | succ later hle ih =>
      have hgrows := daysBeforeMonth_succ leap (show 1 ≤ later by omega) (by omega)
      have := ih (by omega)
      omega

namespace Day

/-! ## Dates -/

structure Valid (d : Day) : Prop where
  year_pos : 1 ≤ d.year
  year_le : d.year ≤ 9999
  month_pos : 1 ≤ d.month
  month_le : d.month ≤ 12
  day_pos : 1 ≤ d.day
  day_le : d.day ≤ monthLength (isLeap d.year) d.month

theorem isValid_iff {d : Day} : d.isValid = true ↔ d.Valid := by
  simp only [isValid, Bool.and_eq_true, decide_eq_true_eq]
  constructor
  · rintro ⟨⟨⟨⟨⟨hy, hy'⟩, hm⟩, hm'⟩, hd⟩, hd'⟩
    exact ⟨hy, hy', hm, hm', hd, hd'⟩
  · rintro ⟨hy, hy', hm, hm', hd, hd'⟩
    exact ⟨⟨⟨⟨⟨hy, hy'⟩, hm⟩, hm'⟩, hd⟩, hd'⟩

theorem number_eq (d : Day) :
    d.number = daysBefore d.year + daysBeforeMonth (isLeap d.year) d.month + (d.day - 1) :=
  rfl

/-- The day after a day. -/
def next (d : Day) : Day :=
  if d.day < monthLength (isLeap d.year) d.month then ⟨d.year, d.month, d.day + 1⟩
  else if d.month < 12 then ⟨d.year, d.month + 1, 1⟩
  else ⟨d.year + 1, 1, 1⟩

theorem number_next {d : Day} (h : d.Valid) : d.next.number = d.number + 1 := by
  have hday := h.day_pos
  have hday' := h.day_le
  have hmonth := daysBeforeMonth_succ (isLeap d.year) h.month_pos h.month_le
  unfold next
  split
  · simp only [number_eq]
    omega
  · split
    · simp only [number_eq]
      omega
    · -- The last day of a December: a year has passed.
      have hlast : d.month = 12 := by
        have := h.month_le
        omega
      have hend : daysBeforeMonth (isLeap d.year) (d.month + 1) = yearLength d.year := by
        rw [hlast]
        exact daysBeforeMonth_end d.year
      have hyear := daysBefore_succ h.year_pos
      have hstart : daysBeforeMonth (isLeap (d.year + 1)) 1 = 0 := rfl
      simp only [number_eq, hstart]
      omega

/-- The days of the year before a date are fewer than those of the year. -/
theorem number_lt_yearEnd {d : Day} (h : d.Valid) :
    d.number < daysBefore d.year + yearLength d.year := by
  have hmonth : daysBeforeMonth (isLeap d.year) d.month + monthLength (isLeap d.year) d.month ≤
      daysBeforeMonth (isLeap d.year) 13 :=
    daysBeforeMonth_le _ h.month_pos (Nat.lt_succ_of_le h.month_le) (Nat.le_refl 13)
  have hend := daysBeforeMonth_end d.year
  have hday := h.day_pos
  have hday' := h.day_le
  rw [number_eq]
  omega

/-- A date comes before another in the calendar. -/
def Before (d e : Day) : Prop :=
  d.year < e.year ∨ d.year = e.year ∧ (d.month < e.month ∨ d.month = e.month ∧ d.day < e.day)

theorem number_lt_of_before {d e : Day} (hd : d.Valid) (he : e.Valid) (h : d.Before e) :
    d.number < e.number := by
  rcases h with hyear | ⟨hyear, hmonth | ⟨hmonth, hday⟩⟩
  · have hend := number_lt_yearEnd hd
    have hyears := daysBefore_le hd.year_pos hyear
    rw [number_eq e]
    omega
  · have hmonths := daysBeforeMonth_le (isLeap d.year) hd.month_pos hmonth
      (Nat.le_succ_of_le he.month_le)
    have hday := hd.day_pos
    have hday' := hd.day_le
    rw [number_eq, number_eq, ← hyear]
    omega
  · have hpos := hd.day_pos
    rw [number_eq, number_eq, ← hyear, ← hmonth]
    omega

theorem before_trichotomy (d e : Day) : d.Before e ∨ d = e ∨ e.Before d := by
  rcases d with ⟨y, m, k⟩
  rcases e with ⟨y', m', k'⟩
  simp only [Before, Day.mk.injEq]
  omega

theorem number_lt_iff {d e : Day} (hd : d.Valid) (he : e.Valid) :
    d.number < e.number ↔ d.Before e := by
  constructor
  · intro h
    rcases before_trichotomy d e with hbefore | rfl | hafter
    · exact hbefore
    · exact absurd h (Nat.lt_irrefl _)
    · have := number_lt_of_before he hd hafter
      omega
  · exact number_lt_of_before hd he

theorem eq_of_number_eq {d e : Day} (hd : d.Valid) (he : e.Valid) (h : d.number = e.number) :
    d = e := by
  rcases before_trichotomy d e with hbefore | heq | hafter
  · have := number_lt_of_before hd he hbefore
    omega
  · exact heq
  · have := number_lt_of_before he hd hafter
    omega

/-- Only behind the last date of the calendar there is none. -/
theorem valid_next {d e : Day} (hd : d.Valid) (he : e.Valid) (h : d.number < e.number) :
    d.next.Valid := by
  have hlonger : ∀ leap, ∀ month ≤ 12, 1 ≤ month → 1 ≤ monthLength leap month := by decide
  obtain ⟨hy, hy', hm, hm', hk, hk'⟩ := hd
  unfold next
  split
  · exact ⟨hy, hy', hm, hm', by simp, by simpa⟩
  · split
    · rename_i hlast hmonth
      exact ⟨hy, hy', by simp, hmonth, Nat.le_refl 1, hlonger _ _ hmonth (by simp)⟩
    · -- A later date has a later year, so the year is not the last one.
      rename_i hlast hmonth
      have hlater : d.Before e := (number_lt_iff ⟨hy, hy', hm, hm', hk, hk'⟩ he).1 h
      have hyear : d.year < e.year := by
        have hmonth' := he.month_le
        have hday' := he.day_le
        rcases hlater with hyear | ⟨hyear, hmonth | ⟨hmonth, hday⟩⟩
        · exact hyear
        · omega
        · rw [← hyear, ← hmonth] at hday'
          omega
      have hbound : d.year + 1 ≤ 9999 := Nat.le_trans hyear he.year_le
      exact ⟨Nat.le_add_left 1 _, hbound, Nat.le_refl 1, Nat.le_add_left 1 11, Nat.le_refl 1,
        hlonger _ _ (Nat.le_add_left 1 11) (Nat.le_refl 1)⟩

/-! ## Dates of numbers -/

theorem isLeap_of_cycles {a b c d : Nat} (hc : c ≤ 24) (hd : d = 3) (hlonger : c = 24 → b = 3) :
    isLeap (400 * a + 100 * b + 4 * c + d + 1) = true := by
  rw [isLeap_iff]
  omega

/-- The rest of a number behind its cycles of 400, 100, 4 and one years is a day of its year. -/
theorem yearOfNumber_rest (n : Nat) :
    1 ≤ (yearOfNumber n).1 ∧ (yearOfNumber n).2 < yearLength (yearOfNumber n).1 := by
  obtain ⟨a, ha⟩ : ∃ a, n / 146097 = a := ⟨_, rfl⟩
  obtain ⟨k, hk⟩ : ∃ k, n % 146097 = k := ⟨_, rfl⟩
  obtain ⟨b, hb⟩ : ∃ b, min (k / 36524) 3 = b := ⟨_, rfl⟩
  obtain ⟨l, hl⟩ : ∃ l, k - b * 36524 = l := ⟨_, rfl⟩
  obtain ⟨c, hc⟩ : ∃ c, l / 1461 = c := ⟨_, rfl⟩
  obtain ⟨q, hq⟩ : ∃ q, l % 1461 = q := ⟨_, rfl⟩
  obtain ⟨d, hd⟩ : ∃ d, min (q / 365) 3 = d := ⟨_, rfl⟩
  obtain ⟨r, hr⟩ : ∃ r, q - d * 365 = r := ⟨_, rfl⟩
  have hyear : yearOfNumber n = (400 * a + 100 * b + 4 * c + d + 1, r) := by
    simp only [yearOfNumber, ha, hk, hb, hl, hc, hq, hd, hr]
  have hshort : k < 146097 := by omega
  clear ha hk
  -- A fourth century, and a fourth year, may be a day longer than the three before it.
  have hcentury : b ≤ 3 ∧ (l < 36524 ∨ l = 36524 ∧ b = 3) := by omega
  clear hb hl
  have hfour : c ≤ 24 ∧ q < 1461 ∧ (q = 1460 → c = 24 → b = 3) := by omega
  clear hc hq
  have hone : d ≤ 3 ∧ (r < 365 ∨ r = 365 ∧ d = 3 ∧ q = 1460) := by omega
  rw [hyear]
  refine ⟨Nat.le_add_left 1 _, ?_⟩
  unfold yearLength
  rcases hone.2 with hrest | ⟨hrest, hd3, hq⟩
  · split <;> omega
  · rw [if_pos (isLeap_of_cycles hfour.1 hd3 (hfour.2.2 hq))]
    omega

/-- A day of a row of months falls into one of them. -/
theorem ofYearDay_falls {months : List Nat} {n : Nat} (month : Nat) (h : n < months.sum) :
    ∃ i < months.length, (ofYearDay months month n).1 = month + i ∧
      1 ≤ (ofYearDay months month n).2 ∧ (ofYearDay months month n).2 ≤ months.getD i 0 := by
  induction months generalizing month n with
  | nil => simp at h
  | cons len months ih =>
      by_cases hn : n < len
      · refine ⟨0, by simp, ?_⟩
        simp only [ofYearDay, if_pos hn, List.getD_cons_zero]
        omega
      · have hrest : n - len < months.sum := by
          rw [List.sum_cons] at h
          omega
        obtain ⟨i, hi, hmonth, hday⟩ := ih (month + 1) hrest
        refine ⟨i + 1, by simpa using hi, ?_⟩
        simp only [ofYearDay, if_neg hn, List.getD_cons_succ]
        exact ⟨by omega, hday⟩

theorem ofNumber_eq (n : Nat) :
    let date := ofYearDay (monthLengths (isLeap (yearOfNumber n).1)) 1 (yearOfNumber n).2
    ofNumber n = ⟨(yearOfNumber n).1, date.1, date.2⟩ :=
  rfl

/-- Every number of a year that has four digits at most is that of a date. -/
theorem valid_ofNumber {n : Nat} (h : (ofNumber n).year ≤ 9999) : (ofNumber n).Valid := by
  obtain ⟨hyear, hrest⟩ := yearOfNumber_rest n
  have hlength : (monthLengths (isLeap (yearOfNumber n).1)).sum =
      yearLength (yearOfNumber n).1 := by
    unfold yearLength
    cases isLeap (yearOfNumber n).1 <;> rfl
  obtain ⟨i, hi, hmonth, hday, hday'⟩ := ofYearDay_falls 1 (hlength.symm ▸ hrest)
  have htwelve : i < 12 := hi
  rw [ofNumber_eq] at h ⊢
  refine ⟨hyear, h, ?_, ?_, hday, ?_⟩
  · exact hmonth ▸ Nat.le_add_right 1 i
  · exact hmonth ▸ (by omega : 1 + i ≤ 12)
  · simpa only [monthLength, hmonth, Nat.add_sub_cancel_left] using hday'

end Day
end Calendar
end TenderDesk
