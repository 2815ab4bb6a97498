import TenderDesk.Event.Publication
import TenderDesk.Proofs.Calendar.Reading
import TenderDesk.Proofs.Schema.Spelling

/-!
# Publication — what is said about the dates of a publication

* `Publication.Keeps` tells what each rule asks of the dates. All rules that are not kept are told,
  in the order of `Rule.all`, and nothing else (`mem_broken_iff`, `broken_sublist`).
* Dates that tell the same times on other clocks break the same rules (`SameDates.broken_eq`).
* Whatever is accepted as dates has moments of the calendar (`Accepted.plain`).
-/

namespace TenderDesk

namespace Schema

/-! ## What entries put into a structure -/

section

variable {ρ α : Type} {c : Codec α} {ms : List (RawText × Json)} {f : ρ → ρ}

theorem Entry.required_put {label name : String} {get : ρ → α} {put : α → ρ → ρ}
    (h : ((Entry.required label name c get put).readFrom ms).toOption = some f) :
    ∃ j a, c.read j = Checked.ok a ∧ f = put a := by
  rw [Entry.readFrom, Checked.toOption_under] at h
  dsimp only [Entry.required] at h
  split at h
  · cases h
  · rw [Checked.toOption_map, Option.map_eq_some_iff] at h
    obtain ⟨a, ha, rfl⟩ := h
    exact ⟨_, a, Checked.toOption_eq_some_iff.1 ha, rfl⟩

theorem Entry.nullable_put {name : String} {get : ρ → Option α} {put : Option α → ρ → ρ}
    (h : ((Entry.nullable name c get put).readFrom ms).toOption = some f) :
    ∃ v, f = put v ∧ ∀ a ∈ v, ∃ j, c.read j = Checked.ok a := by
  rw [Entry.readFrom, Checked.toOption_under] at h
  dsimp only [Entry.nullable] at h
  split at h
  · cases h
    exact ⟨none, rfl, fun _ h => by cases h⟩
  · cases h
    exact ⟨none, rfl, fun _ h => by cases h⟩
  · rw [Checked.toOption_map, Option.map_eq_some_iff] at h
    obtain ⟨a, ha, rfl⟩ := h
    refine ⟨some a, rfl, fun b hb => ?_⟩
    cases hb
    exact ⟨_, Checked.toOption_eq_some_iff.1 ha⟩

end

end Schema

namespace Publication

open Schema Calendar

/-! ## Rules -/

/-- The rules, in the order in which they are told. -/
def Rule.all : List Rule :=
  [.closesLater, .opensNotBefore, .opensBeforeClosing]

/-- What a rule asks of the dates. -/
def Keeps (p : Publication) (now : Instant) : Rule → Prop
  | .closesLater => now < p.closing.instant
  | .opensNotBefore => ∀ opening ∈ p.opening, now ≤ opening.instant
  | .opensBeforeClosing => ∀ opening ∈ p.opening, opening.instant < p.closing.instant

variable {p p' : Publication} {now : Instant}

theorem breaks_eq_true_iff (rule : Rule) : p.breaks now rule = true ↔ ¬p.Keeps now rule := by
  cases rule with
  | closesLater => simp [breaks, Keeps]
  | opensNotBefore => cases h : p.opening <;> simp [breaks, Keeps, h]
  | opensBeforeClosing => cases h : p.opening <;> simp [breaks, Keeps, h]

theorem broken_sublist : (p.broken now).Sublist Rule.all :=
  List.filter_sublist

theorem Rule.mem_all (rule : Rule) : rule ∈ Rule.all := by
  cases rule <;> decide

theorem mem_broken_iff (rule : Rule) : rule ∈ p.broken now ↔ ¬p.Keeps now rule := by
  rw [← breaks_eq_true_iff]
  exact List.mem_filter.trans (and_iff_right rule.mem_all)

theorem problems_eq_nil_iff : p.problems now = [] ↔ ∀ rule, p.Keeps now rule := by
  unfold problems
  rw [List.map_eq_nil_iff, List.eq_nil_iff_forall_not_mem]
  exact forall_congr' fun rule => (not_congr (mem_broken_iff rule)).trans not_not

/-- All rules at once: the closing date is still to come, and the opening date lies between. -/
theorem forall_keeps_iff : (∀ rule, p.Keeps now rule) ↔
    now < p.closing.instant ∧
      ∀ opening ∈ p.opening, now ≤ opening.instant ∧ opening.instant < p.closing.instant := by
  constructor
  · intro h
    refine ⟨h .closesLater, fun opening hopening => ?_⟩
    exact ⟨h .opensNotBefore opening hopening, h .opensBeforeClosing opening hopening⟩
  · rintro ⟨hclosing, hopening⟩ rule
    cases rule with
    | closesLater => exact hclosing
    | opensNotBefore => exact fun opening ho => (hopening opening ho).1
    | opensBeforeClosing => exact fun opening ho => (hopening opening ho).2

theorem check_of_kept (h : p.problems now = []) : p.check now = .ok () := by
  unfold check
  rw [h]

theorem check_of_broken (h : p.problems now ≠ []) :
    p.check now = .error (.datesRefused (p.problems now)) := by
  unfold check
  split
  · rename_i hnone
    exact absurd hnone h
  · rfl

/-! ## Other clocks -/

/-- The same dates, told by whatever clocks. -/
structure SameDates (p p' : Publication) : Prop where
  closing : p.closing.SameTime p'.closing
  opening : Option.Rel Moment.SameTime p.opening p'.opening

theorem SameDates.keeps_iff (h : p.SameDates p') (rule : Rule) :
    p.Keeps now rule ↔ p'.Keeps now rule := by
  obtain ⟨opening, closing⟩ := p
  obtain ⟨opening', closing'⟩ := p'
  have hclosing : closing.instant = closing'.instant := h.closing.instant_eq
  have hopening : Option.Rel Moment.SameTime opening opening' := h.opening
  cases hopening with
  | none => cases rule <;> simp [Keeps, hclosing]
  | some hsame => cases rule <;> simp [Keeps, hclosing, hsame.instant_eq]

theorem SameDates.broken_eq (h : p.SameDates p') : p.broken now = p'.broken now := by
  refine List.filter_congr fun rule _ => Bool.eq_iff_iff.2 ?_
  rw [breaks_eq_true_iff, breaks_eq_true_iff, h.keeps_iff]

/-! ## Accepted dates -/

/-- Some value is read as these dates. -/
def Accepted (p : Publication) : Prop :=
  ∃ j, codec.read j = Checked.ok p

/-- Only moments of the calendar are put into accepted dates. -/
theorem Accepted.plain (h : p.Accepted) :
    p.closing.Plain ∧ ∀ opening ∈ p.opening, opening.Plain := by
  obtain ⟨j, h⟩ := h
  cases j with
  | obj ms =>
      have hread : (readEntries ms table default).toOption = some p :=
        Checked.toOption_eq_some_iff.2 h
      -- The entries are put into an empty structure one by one, and each writes a field of its own.
      simp only [readEntries, table, List.foldl_cons, List.foldl_nil,
        Checked.toOption_thenApply, Option.bind_eq_some_iff, Option.map_eq_some_iff] at hread
      obtain ⟨_, ⟨_, -, _, hfirst, rfl⟩, _, hsecond, rfl⟩ := hread
      obtain ⟨opening, rfl, hopening⟩ := Entry.nullable_put hfirst
      obtain ⟨_, closing, hclosing, rfl⟩ := Entry.required_put hsecond
      refine ⟨Codec.moment_plain hclosing, fun m hm => ?_⟩
      obtain ⟨_, hread⟩ := hopening m hm
      exact Codec.moment_plain hread
  | _ => cases h

/-! ## Judgement -/

/-- Dates pass exactly when the closing date is to come and an opening date lies between. All rules
that are broken are told, once each and in order, and nothing depends on the clocks that tell the
dates: accepted dates are of the calendar, on which moments have the same instant exactly when they
tell the same time, and are ordered by date and time of day on one clock. -/
theorem dates_judged (p : Publication) (now : Moment) :
    (p.problems now.instant = [] ↔ now.instant < p.closing.instant ∧
      ∀ opening ∈ p.opening,
        now.instant ≤ opening.instant ∧ opening.instant < p.closing.instant) ∧
    (p.problems now.instant = (p.broken now.instant).map (Rule.message p) ∧
      (p.broken now.instant).Sublist Rule.all ∧
      ∀ rule, rule ∈ p.broken now.instant ↔ ¬p.Keeps now.instant rule) ∧
    ((p.problems now.instant = [] → p.check now.instant = .ok ()) ∧
      (p.problems now.instant ≠ [] → ∃ failure, p.check now.instant = .error failure ∧
        failure.category = .invalid ∧ failure.problems = p.problems now.instant)) ∧
    (∀ p' now', p.SameDates p' → now.SameTime now' →
      p'.broken now'.instant = p.broken now.instant) ∧
    (p.Accepted → p.closing.Valid ∧ ∀ opening ∈ p.opening, opening.Valid) ∧
    ∀ m m' : Moment, m.Valid → m'.Valid →
      (m.instant = m'.instant ↔ m.SameTime m') ∧
      (m.offset = m'.offset → (m.instant < m'.instant ↔
        m.day.Before m'.day ∨ m.day = m'.day ∧ m.micros < m'.micros)) := by
  refine ⟨problems_eq_nil_iff.trans forall_keeps_iff, ⟨rfl, broken_sublist, mem_broken_iff⟩,
    ⟨check_of_kept, fun h => ⟨_, check_of_broken h, rfl, rfl⟩⟩, ?_, ?_, ?_⟩
  · intro p' now' hdates hnow
    rw [hdates.broken_eq, hnow.instant_eq]
  · intro haccepted
    exact ⟨haccepted.plain.1.toValid, fun opening ho => (haccepted.plain.2 opening ho).toValid⟩
  · intro m m' hm hm'
    exact ⟨(Moment.sameTime_iff hm hm').symm, Moment.instant_lt_iff hm hm'⟩

/-- Dates from the last hour of a leap day, on a clock two hours behind universal time, until the
next microsecond. -/
def overnight : Publication where
  opening := some ⟨⟨2028, 2, 29⟩, 84600000000, some (-7200)⟩
  closing := ⟨⟨2028, 3, 1⟩, 5400000001, none⟩

/-- The same dates on two other clocks. -/
def overnightElsewhere : Publication where
  opening := some ⟨⟨2028, 3, 1⟩, 5400000000, none⟩
  closing := ⟨⟨2028, 2, 29⟩, 84600000001, some (-7200)⟩

theorem dates_judged_overnight :
    let now : Moment := ⟨⟨2028, 2, 29⟩, 84600000000, some (-7200)⟩
    let now' : Moment := ⟨⟨2028, 3, 1⟩, 7200000000, some 1800⟩
    overnight.Accepted ∧ overnight.problems now.instant = [] ∧
      overnightElsewhere.broken now'.instant = overnight.broken now.instant := by
  intro now now'
  obtain ⟨hnone, -, -, hclocks, -, hinstants⟩ := dates_judged overnight now
  have hsame : ∀ m m' : Moment, m.day.isValid = true ∧ m.micros < microsPerDay →
      m'.day.isValid = true ∧ m'.micros < microsPerDay → m.instant = m'.instant →
      m.SameTime m' := fun m m' hm hm' =>
    (hinstants m m' ⟨Day.isValid_iff.1 hm.1, hm.2⟩ ⟨Day.isValid_iff.1 hm'.1, hm'.2⟩).1.1
  refine ⟨⟨.obj [("start_date", .str "2028-02-29T23:30-02:00"),
    ("end_date", .str "2028-03-01T01:30:00.000001")],
      Checked.toOption_eq_some_iff.1 (by decide +kernel)⟩, ?_, ?_⟩
  · refine hnone.2 ⟨by decide, fun opening ho => ?_⟩
    cases ho
    decide
  · refine hclocks _ _ ⟨?_, .some ?_⟩ ?_
    all_goals exact hsame _ _ (by decide) (by decide) (by decide)

end Publication
end TenderDesk
