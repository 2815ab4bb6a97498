import Mathlib.Data.List.Basic
import Mathlib.Data.List.TakeWhile
import TenderDesk.Calendar.Reading
import TenderDesk.Proofs.Calendar.Moment
import TenderDesk.Proofs.Number.Reading
import TenderDesk.Schema.Codec

/-!
# Reading — what is read is a moment of the calendar, and its text is read back

* Whatever a moment is read from, it has a date of the calendar, a time of that day, and an offset
  of whole minutes, of less than a day, if it has one (`Moment.Plain`, `plain_of_readMoment?`).
* The text of such a moment is read back as that moment (`readMoment?_text`).
-/

namespace TenderDesk
namespace Calendar

open Text (isDigit digitsValue digitValue)

/-! ## Digits -/

/-- A number in exactly `width` digits. -/
structure Written (width n : Nat) (ds : List Char) : Prop where
  length : ds.length = width
  digit : ∀ c ∈ ds, isDigit c = true
  value : digitsValue ds = n

theorem digitsValue_zeros (k : Nat) (ds : List Char) :
    digitsValue (List.replicate k '0' ++ ds) = digitsValue ds := by
  induction k with
  | zero => rfl
  | succ k ih => exact ih

theorem padded_written {width n : Nat} (hwidth : 0 < width) (h : n < 10 ^ width) :
    Written width n (padded width n).toList := by
  have hlength : (Text.digits n).length ≤ width := (Text.length_digits_le_iff hwidth).2 h
  simp only [padded, String.toList_ofList]
  refine ⟨by simp; omega, ?_, ?_⟩
  · intro c hc
    rcases List.mem_append.1 hc with hzero | hdigit
    · rw [List.eq_of_mem_replicate hzero]
      rfl
    · exact Text.isDigit_of_mem_digits hdigit
  · rw [digitsValue_zeros, Text.digitsValue_digits]

/-- Two digits are a pair. -/
theorem Written.two {n : Nat} {ds : List Char} (h : Written 2 n ds) :
    ∃ a b, ds = [a, b] ∧ pair? a b = some n := by
  obtain ⟨a, b, rfl⟩ := List.length_eq_two.1 h.length
  refine ⟨a, b, rfl, ?_⟩
  have ha : isDigit a = true := h.digit a (by simp)
  have hb : isDigit b = true := h.digit b (by simp)
  have hvalue : 10 * digitValue a + digitValue b = n := by
    rw [← h.value]
    simp [digitsValue]
  simp [pair?, ha, hb, hvalue]

/-- Four digits are two pairs. -/
theorem Written.four {n : Nat} {ds : List Char} (h : Written 4 n ds) :
    ∃ a b c d century year, ds = [a, b, c, d] ∧ pair? a b = some century ∧ pair? c d = some year ∧
      100 * century + year = n := by
  obtain ⟨a, b, c, d, rfl⟩ := List.length_eq_four.1 h.length
  have ha : isDigit a = true := h.digit a (by simp)
  have hb : isDigit b = true := h.digit b (by simp)
  have hc : isDigit c = true := h.digit c (by simp)
  have hd : isDigit d = true := h.digit d (by simp)
  have hvalue :
      10 * (10 * (10 * digitValue a + digitValue b) + digitValue c) + digitValue d = n := by
    rw [← h.value]
    simp [digitsValue]
  refine ⟨a, b, c, d, 10 * digitValue a + digitValue b, 10 * digitValue c + digitValue d, rfl,
    by simp [pair?, ha, hb], by simp [pair?, hc, hd], ?_⟩
  omega

/-! ## Moments that can be read -/

namespace Moment

/-- A moment as it can be given: of the calendar, and with an offset of whole minutes if it has
one. -/
structure Plain (m : Moment) : Prop extends Valid m where
  offset : ∀ o ∈ m.offset, o.natAbs < secondsPerDay ∧ 60 ∣ o.natAbs

end Moment

theorem valid_of_readDay? {cs rest : List Char} {d : Day} (h : readDay? cs = some (d, rest)) :
    d.Valid := by
  unfold readDay? at h
  split at h
  · simp only [Option.bind_eq_bind, Option.bind_eq_some_iff] at h
    obtain ⟨century, -, year, -, month, -, day, -, h⟩ := h
    split at h
    · rename_i hvalid
      cases h
      exact Day.isValid_iff.1 hvalid
    · cases h
  · cases h

theorem fractionMicros_lt {ds : List Char} (h : ∀ c ∈ ds, isDigit c = true) :
    fractionMicros ds < microsPerSecond := by
  have hlength : (ds.take 6).length ≤ 6 := List.length_take_le 6 ds
  have hdigits : ∀ c ∈ ds.take 6 ++ List.replicate (6 - (ds.take 6).length) '0',
      isDigit c = true := by
    intro c hc
    rcases List.mem_append.1 hc with hdigit | hzero
    · exact h c (List.mem_of_mem_take hdigit)
    · rw [List.eq_of_mem_replicate hzero]
      rfl
  have hbound := Text.digitsValue_lt hdigits
  rw [List.length_append, List.length_replicate, Nat.add_sub_cancel' hlength] at hbound
  exact hbound

theorem lt_of_readSeconds? {cs rest : List Char} {micros : Nat}
    (h : readSeconds? cs = some (micros, rest)) : micros < 60 * microsPerSecond := by
  unfold readSeconds? at h
  split at h
  · simp only [Option.bind_eq_bind, Option.bind_eq_some_iff] at h
    obtain ⟨s, -, h⟩ := h
    split at h
    · cases h
    · rename_i hs
      have hsecond : 0 < microsPerSecond := by decide
      -- A fraction adds less than a second.
      obtain ⟨fraction, hfraction, rfl⟩ : ∃ fraction < microsPerSecond,
          s * microsPerSecond + fraction = micros := by
        split at h
        · split at h
          · split at h
            · cases h
            · cases h
              exact ⟨_, fractionMicros_lt fun c hc => List.mem_takeWhile_imp hc, rfl⟩
          · cases h
            exact ⟨0, hsecond, Nat.add_zero _⟩
        · cases h
          exact ⟨0, hsecond, Nat.add_zero _⟩
      simp only [microsPerSecond] at *
      omega
  · cases h
  · cases h
    decide

theorem lt_of_readTime? {cs rest : List Char} {micros : Nat}
    (h : readTime? cs = some (micros, rest)) : micros < microsPerDay := by
  unfold readTime? at h
  split at h
  · simp only [Option.bind_eq_bind, Option.bind_eq_some_iff] at h
    obtain ⟨hours, -, minutes, -, h⟩ := h
    split at h
    · cases h
    · rename_i hlimits
      obtain ⟨⟨seconds, rest'⟩, hseconds, h⟩ := Option.bind_eq_some_iff.1 h
      have hlt := lt_of_readSeconds? hseconds
      cases h
      simp only [microsPerDay, secondsPerDay, microsPerSecond] at *
      simp only [Bool.or_eq_true, decide_eq_true_eq, not_or] at hlimits
      omega
  · cases h

theorem plain_of_offsetSeconds? {h1 h2 m1 m2 : Char} {s : Nat}
    (h : offsetSeconds? h1 h2 m1 m2 = some s) : s < secondsPerDay ∧ 60 ∣ s := by
  simp only [offsetSeconds?, Option.bind_eq_bind, Option.bind_eq_some_iff] at h
  obtain ⟨hours, -, minutes, -, h⟩ := h
  split at h
  · cases h
  · rename_i hlimits
    cases h
    simp only [Bool.or_eq_true, decide_eq_true_eq, not_or] at hlimits
    simp only [secondsPerDay]
    omega

theorem natAbs_signed (negative : Bool) (n : Nat) : (Number.signed negative n).natAbs = n := by
  cases negative <;> simp [Number.signed]

/-- Hours and minutes behind a sign. -/
theorem plain_of_signed {negative : Bool} {h1 h2 m1 m2 : Char} {offset : Option Int}
    (h : ((offsetSeconds? h1 h2 m1 m2).bind fun s => some (some (Number.signed negative s)))
      = some offset) :
    ∀ o ∈ offset, o.natAbs < secondsPerDay ∧ 60 ∣ o.natAbs := by
  obtain ⟨s, hs, h⟩ := Option.bind_eq_some_iff.1 h
  cases h
  intro o ho
  cases ho
  rw [natAbs_signed]
  exact plain_of_offsetSeconds? hs

theorem plain_of_readOffset? {cs : List Char} {offset : Option Int}
    (h : readOffset? cs = some offset) :
    ∀ o ∈ offset, o.natAbs < secondsPerDay ∧ 60 ∣ o.natAbs := by
  unfold readOffset? at h
  split at h
  · cases h
    simp
  · cases h
    simp [secondsPerDay]
  · cases h
    simp [secondsPerDay]
  · -- With a colon, without one, or in another way, behind each sign.
    split at h
    · split at h
      · exact plain_of_signed h
      · split at h
        · exact plain_of_signed h
        · cases h
    · split at h
      · exact plain_of_signed h
      · split at h
        · exact plain_of_signed h
        · cases h
    · split at h
      · cases h
      · split at h <;> cases h
  · cases h

theorem plain_of_readDayTime? {cs : List Char} {m : Moment} (h : readDayTime? cs = some m) :
    m.Plain := by
  simp only [readDayTime?, Option.bind_eq_bind, Option.bind_eq_some_iff] at h
  obtain ⟨⟨day, rest⟩, hday, h⟩ := h
  have hvalid := valid_of_readDay? hday
  have hmidnight : 0 < microsPerDay := by decide
  dsimp only at h
  split at h
  · cases h
    exact ⟨⟨hvalid, hmidnight⟩, by simp⟩
  · split at h
    · obtain ⟨⟨micros, rest'⟩, htime, h⟩ := Option.bind_eq_some_iff.1 h
      obtain ⟨offset, hoffset, h⟩ := Option.bind_eq_some_iff.1 h
      cases h
      exact ⟨⟨hvalid, lt_of_readTime? htime⟩, plain_of_readOffset? hoffset⟩
    · cases h

/-! ### Counts -/

theorem plain_of_ofUnix? {seconds : Int} {micros : Nat} {m : Moment}
    (hmicros : micros < microsPerSecond) (h : Moment.ofUnix? seconds micros = some m) :
    m.Plain := by
  unfold Moment.ofUnix? at h
  dsimp only at h
  split at h
  · cases h
  · split at h
    · rename_i hyear
      cases h
      refine ⟨⟨Day.valid_ofNumber hyear, ?_⟩, by simp [secondsPerDay]⟩
      have hlt : ((seconds + unixEpoch).toNat) % secondsPerDay < secondsPerDay :=
        Nat.mod_lt _ (by decide)
      simp only [microsPerDay, secondsPerDay, microsPerSecond] at *
      omega
    · cases h

theorem plain_of_ofCount? {count : Int} {micros : Nat} {m : Moment}
    (h : ofCount? count micros = some m) : m.Plain := by
  unfold ofCount? at h
  split at h
  exact plain_of_ofUnix? (Nat.mod_lt _ (by decide)) h

theorem plain_of_ofReal? {x : Binary64} {m : Moment} (h : ofReal? x = some m) : m.Plain := by
  unfold ofReal? at h
  split at h
  · exact plain_of_ofCount? h
  · cases h

theorem plain_of_readCount? {cs : List Char} {m : Moment} (h : readCount? cs = some m) :
    m.Plain := by
  unfold readCount? at h
  dsimp only at h
  split at h
  · split at h
    · cases h
    · exact plain_of_ofCount? h
  · split at h
    · exact plain_of_ofReal? h
    · cases h
  · cases h

theorem plain_of_readMoment? {s : String} {m : Moment} (h : readMoment? s = some m) : m.Plain := by
  rcases Option.or_eq_some_iff.1 h with hday | ⟨-, hcount⟩
  · exact plain_of_readDayTime? hday
  · exact plain_of_readCount? hcount

/-! ## The text of a moment -/

section

variable {ys ms ds ss fs rest : List Char}

theorem readDay?_written {d : Day} (hvalid : d.Valid) (hyear : Written 4 d.year ys)
    (hmonth : Written 2 d.month ms) (hday : Written 2 d.day ds) :
    readDay? (ys ++ '-' :: (ms ++ '-' :: (ds ++ rest))) = some (d, rest) := by
  obtain ⟨y1, y2, y3, y4, century, year, rfl, hcentury, hyear, hsum⟩ := hyear.four
  obtain ⟨m1, m2, rfl, hmonth'⟩ := hmonth.two
  obtain ⟨d1, d2, rfl, hday'⟩ := hday.two
  have hcheck : Day.isValid ⟨d.year, d.month, d.day⟩ = true := Day.isValid_iff.2 hvalid
  simp only [readDay?, List.cons_append, List.nil_append, hcentury, hyear, hmonth', hday',
    Option.bind_eq_bind, Option.bind_some, hsum, if_pos hcheck]

/-- What may follow the digits of a time: the text ends, or goes on with neither a digit nor a
fraction. -/
def Closes (rest : List Char) : Prop :=
  ∀ c ∈ rest.head?, isDigit c = false ∧ c ≠ '.' ∧ c ≠ ','

/-- The fraction of a second that is written. -/
def fractionText (fraction : Nat) : String :=
  if fraction == 0 then "" else "." ++ padded 6 fraction

theorem fractionMicros_written {f : Nat} (h : Written 6 f fs) : fractionMicros fs = f := by
  have htake : fs.take 6 = fs := List.take_of_length_le (Nat.le_of_eq h.length)
  simp only [fractionMicros, htake, h.length, Nat.sub_self, List.replicate_zero, List.append_nil,
    h.value]

theorem takeWhile_digits (hfs : ∀ c ∈ fs, isDigit c = true) (hrest : Closes rest) :
    (fs ++ rest).takeWhile isDigit = fs := by
  rw [List.takeWhile_append_of_pos hfs]
  cases rest with
  | nil => simp
  | cons c rest => simp [(hrest c rfl).1]

theorem readSeconds?_written {s fraction : Nat} (hs : s ≤ 59) (hwritten : Written 2 s ss)
    (hfraction : fraction < microsPerSecond) (hrest : Closes rest) :
    readSeconds? (':' :: (ss ++ ((fractionText fraction).toList ++ rest)))
      = some (s * microsPerSecond + fraction, rest) := by
  obtain ⟨s1, s2, rfl, hpair⟩ := hwritten.two
  have hlimit : ¬59 < s := Nat.not_lt.2 hs
  simp only [readSeconds?, List.cons_append, List.nil_append, hpair, Option.bind_eq_bind,
    Option.bind_some, if_neg hlimit]
  by_cases hzero : fraction = 0
  · subst hzero
    cases rest with
    | nil => simp [fractionText]
    | cons c rest =>
        have hc := hrest c rfl
        simp [fractionText, hc.2.1, hc.2.2]
  · have hdigits : Written 6 fraction (padded 6 fraction).toList :=
      padded_written (by decide) hfraction
    have htake := takeWhile_digits hdigits.digit hrest
    have hne : (padded 6 fraction).toList ≠ [] := by
      intro hnil
      have hlength := hdigits.length
      rw [hnil] at hlength
      cases hlength
    have htext : (fractionText fraction).toList = '.' :: (padded 6 fraction).toList := by
      simp [fractionText, hzero]
    rw [htext]
    simp [htake, hne, fractionMicros_written hdigits]

theorem readTime?_text {micros : Nat} (h : micros < microsPerDay) (hrest : Closes rest) :
    readTime? ((Moment.timeText micros).toList ++ rest) = some (micros, rest) := by
  have hfraction : micros % microsPerSecond < microsPerSecond := Nat.mod_lt _ (by decide)
  have hwhole : micros / microsPerSecond * microsPerSecond + micros % microsPerSecond = micros :=
    Nat.div_add_mod' _ _
  have hseconds : micros / microsPerSecond < secondsPerDay := Nat.div_lt_of_lt_mul (by
    rw [Nat.mul_comm]
    exact h)
  have htext : (Moment.timeText micros).toList
      = (padded 2 (micros / microsPerSecond / 3600)).toList ++ ':' ::
        ((padded 2 (micros / microsPerSecond / 60 % 60)).toList ++ ':' ::
          ((padded 2 (micros / microsPerSecond % 60)).toList ++
            (fractionText (micros % microsPerSecond)).toList)) := by
    simp [Moment.timeText, fractionText]
  rw [htext]
  generalize micros / microsPerSecond = s at *
  generalize micros % microsPerSecond = fraction at *
  simp only [secondsPerDay] at hseconds
  have hsum : (s / 3600 * 60 + s / 60 % 60) * 60 + s % 60 = s := by omega
  obtain ⟨h1, h2, hhours, hhours'⟩ := (@padded_written 2 (s / 3600) (by decide) (by omega)).two
  obtain ⟨m1, m2, hminutes, hminutes'⟩ :=
    (@padded_written 2 (s / 60 % 60) (by decide) (by omega)).two
  have hread : readSeconds? (':' :: ((padded 2 (s % 60)).toList ++
      ((fractionText fraction).toList ++ rest))) =
        some (s % 60 * microsPerSecond + fraction, rest) :=
    readSeconds?_written (by omega) (padded_written (by decide) (by omega)) hfraction hrest
  have hlimits : ¬(decide (23 < s / 3600) || decide (59 < s / 60 % 60)) = true := by
    simp only [Bool.or_eq_true, decide_eq_true_eq]
    omega
  simp only [hhours, hminutes, List.cons_append, List.nil_append, List.append_assoc, readTime?,
    hhours', hminutes', hread, if_neg hlimits, Option.bind_eq_bind, Option.bind_some]
  rw [← Nat.add_assoc, ← Nat.add_mul, hsum, hwhole]

theorem offsetSeconds?_of_pairs {h1 h2 m1 m2 : Char} {s : Nat}
    (hhours : pair? h1 h2 = some (s / 3600)) (hminutes : pair? m1 m2 = some (s / 60 % 60))
    (hday : s < secondsPerDay) (hwhole : 60 ∣ s) : offsetSeconds? h1 h2 m1 m2 = some s := by
  simp only [secondsPerDay] at hday
  have hlimits : ¬(decide (59 < s / 60 % 60) || decide (23 < s / 3600)) = true := by
    simp only [Bool.or_eq_true, decide_eq_true_eq]
    omega
  have hsum : (s / 3600 * 60 + s / 60 % 60) * 60 = s := by omega
  simp only [offsetSeconds?, hhours, hminutes, Option.bind_eq_bind, Option.bind_some,
    if_neg hlimits, hsum]

theorem signed_natAbs (o : Int) : Number.signed (decide (o < 0)) o.natAbs = o := by
  by_cases hnegative : o < 0
  · rw [decide_eq_true hnegative]
    show -(o.natAbs : Int) = o
    omega
  · rw [decide_eq_false hnegative]
    show (o.natAbs : Int) = o
    omega

theorem readOffset?_offsetText {o : Int} (hday : o.natAbs < secondsPerDay)
    (hminutes : 60 ∣ o.natAbs) : readOffset? (offsetText o).toList = some (some o) := by
  have htext : (offsetText o).toList = (if o < 0 then '-' else '+') ::
      ((padded 2 (o.natAbs / 3600)).toList ++ ':' :: (padded 2 (o.natAbs / 60 % 60)).toList) := by
    have hwhole : o.natAbs % 60 = 0 := Nat.mod_eq_zero_of_dvd hminutes
    by_cases hnegative : o < 0 <;> simp [offsetText, hnegative, hwhole]
  have hhours : o.natAbs / 3600 < 10 ^ 2 := by
    simp only [secondsPerDay] at hday
    omega
  obtain ⟨h1, h2, hpair, hhours⟩ := (padded_written (by decide) hhours).two
  obtain ⟨m1, m2, hpair', hmins⟩ := (@padded_written 2 (o.natAbs / 60 % 60) (by decide)
    (by omega)).two
  have hread := offsetSeconds?_of_pairs hhours hmins hday hminutes
  have hsigned := signed_natAbs o
  rw [htext, hpair, hpair']
  by_cases hnegative : o < 0
  · rw [decide_eq_true hnegative] at hsigned
    simp [readOffset?, hnegative, hread, hsigned]
  · rw [decide_eq_false hnegative] at hsigned
    simp [readOffset?, hnegative, hread, hsigned]

theorem closes_offsetText (o : Int) : Closes (offsetText o).toList := by
  have hhead : (offsetText o).toList.head? = some (if o < 0 then '-' else '+') := by
    by_cases hnegative : o < 0 <;> simp [offsetText, hnegative]
  intro c hc
  rw [hhead] at hc
  cases hc
  split <;> decide

end

/-- The text of a moment is read back as that moment. -/
theorem readDayTime?_text {m : Moment} (h : m.Plain) : readDayTime? m.text.toList = some m := by
  have htext : m.text.toList = (padded 4 m.day.year).toList ++ '-' :: ((padded 2 m.day.month).toList
      ++ '-' :: ((padded 2 m.day.day).toList ++ 'T' :: ((Moment.timeText m.micros).toList
        ++ ((m.offset.map offsetText).getD "").toList))) := by
    simp [Moment.text]
  have hvalid := h.day
  have hyear := @padded_written 4 m.day.year (by decide) (Nat.lt_succ_of_le hvalid.year_le)
  have hmonth := @padded_written 2 m.day.month (by decide)
    (Nat.lt_of_le_of_lt hvalid.month_le (by decide))
  have hday := @padded_written 2 m.day.day (by decide)
    (Nat.lt_of_le_of_lt (hvalid.day_le.trans (monthLength_le _ hvalid.month_le)) (by decide))
  rw [htext, readDayTime?, readDay?_written hvalid hyear hmonth hday]
  rcases m with ⟨day, micros, _ | o⟩
  · have htime : readTime? ((Moment.timeText micros).toList ++ []) = some (micros, []) :=
      readTime?_text h.micros (by simp [Closes])
    rw [List.append_nil] at htime
    simp [htime, readOffset?]
  · have hoffset := h.offset o rfl
    have htime := readTime?_text h.micros (closes_offsetText o)
    simp [htime, readOffset?_offsetText hoffset.1 hoffset.2]

theorem readMoment?_text {m : Moment} (h : m.Plain) : readMoment? m.text = some m := by
  rw [readMoment?, readDayTime?_text h]
  rfl

end Calendar

namespace Schema

/-- Whatever value a moment is read from, it is one of the calendar. -/
theorem Codec.moment_plain {j : Json} {m : Calendar.Moment}
    (h : Codec.moment.read j = Checked.ok m) : m.Plain := by
  cases j with
  | str s =>
      cases s with
      | whole s =>
          simp only [Codec.moment] at h
          split at h
          · cases h
            exact Calendar.plain_of_readMoment? ‹_›
          · cases h
      | torn t => cases h
  | int i =>
      simp only [Codec.moment] at h
      split at h
      · cases h
        rename_i hread
        split at hread
        · exact Calendar.plain_of_ofCount? hread
        · exact Calendar.plain_of_ofReal? hread
      · cases h
  | real x =>
      simp only [Codec.moment] at h
      split at h
      · cases h
        exact Calendar.plain_of_ofReal? ‹_›
      · cases h
  | null => cases h
  | bool b => cases h
  | arr xs => cases h
  | obj ms => cases h

end Schema
end TenderDesk
