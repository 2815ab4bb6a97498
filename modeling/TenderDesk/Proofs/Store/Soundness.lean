import TenderDesk.Event.Assignment
import TenderDesk.Proofs.Store.Rows

/-!
# Soundness — which rows make sense, and how they may change

* `Row.Sound` says how the kind of an event, its assessment, its record and its selections go
  together; `Store.Sound` says it of all rows of a store.
* `Row.Becomes` says what an event keeps for good, `Store.Evolves` says it of all rows of a store.
-/

namespace TenderDesk

/-- A text names one kind at most. -/
theorem EventKind.eq_of_name {text : String} {kind kind' : EventKind} (h : text = kind.name)
    (h' : text = kind'.name) : kind = kind' :=
  EventKind.name_injective (h.symm.trans h')

/-! ## Single rows -/

structure Row.Sound (row : Row) : Prop where
  known : ∃ kind : EventKind, row.kind = kind.name
  assessed : ∀ kind : EventKind, row.kind = kind.name → kind.owner = .assessment →
    row.assessment.isSome ∧ row.externalId = none
  unowned : row.kind = EventKind.tbd.name → row.externalId = none ∧ row.selections = []
  selected : row.selections ≠ [] →
    ∃ kind : EventKind, row.kind = kind.name ∧ kind.owner = .assessment
  distinct : row.organisations.Nodup

/-- What an event keeps: a concrete kind, and a record on the platform. -/
structure Row.Becomes (row row' : Row) : Prop where
  id : row'.id = row.id
  kind : row.kind ≠ EventKind.tbd.name → row'.kind = row.kind
  record : ∀ id, id ≠ "" → row.externalId = some id → row'.externalId = some id

namespace Row

variable {row row' row'' : Row}

theorem Becomes.refl (row : Row) : row.Becomes row where
  id := rfl
  kind _ := rfl
  record _ _ h := h

theorem Becomes.trans (h : row.Becomes row') (h' : row'.Becomes row'') : row.Becomes row'' where
  id := h'.id.trans h.id
  kind hne := by
    have hkind : row'.kind = row.kind := h.kind hne
    exact (h'.kind (hkind ▸ hne)).trans hkind
  record id hne he := h'.record id hne (h.record id hne he)

/-- A row with the fields that soundness is about. -/
theorem Sound.congr (h : row.Sound) (hkind : row'.kind = row.kind)
    (hassessment : row'.assessment = row.assessment) (hexternal : row'.externalId = row.externalId)
    (hselections : row'.selections = row.selections) : row'.Sound where
  known := by rw [hkind]; exact h.known
  assessed := by rw [hkind, hassessment, hexternal]; exact h.assessed
  unowned := by rw [hkind, hexternal, hselections]; exact h.unowned
  selected := by rw [hkind, hselections]; exact h.selected
  distinct := by unfold organisations; rw [hselections]; exact h.distinct

/-- Selections are sound on every event with an assessment, if no organisation is selected twice. -/
theorem Sound.reselect (h : row.Sound) {kind : EventKind} (hkind : row.kind = kind.name)
    (howner : kind.owner = .assessment) {selections : List Selection}
    (hnodup : (selections.map (·.organisation)).Nodup) (updatedBy : String) :
    Row.Sound { row with selections, updatedBy } where
  known := h.known
  assessed := h.assessed
  unowned htbd := by
    have : kind = .tbd := EventKind.eq_of_name hkind htbd
    rw [this] at howner
    cases howner
  selected _ := ⟨kind, hkind, howner⟩
  distinct := hnodup

theorem record?_eq_some_iff {id : String} :
    row.record? = some id ↔ row.externalId = some id ∧ id ≠ "" := by
  unfold record?
  simp [Option.filter_eq_some_iff]

theorem record?_eq_none_iff : row.record? = none ↔ row.externalId.getD "" = "" := by
  unfold record?
  cases row.externalId <;> simp

/-- Only an event of the platform has a record. -/
theorem Sound.owner_of_record (h : row.Sound) {id : String} (hid : row.externalId = some id) :
    ∃ kind : EventKind, row.kind = kind.name ∧ kind.owner = .platform := by
  rcases h.known with ⟨kind, hkind⟩
  refine ⟨kind, hkind, ?_⟩
  cases howner : kind.owner with
  | platform => rfl
  | assessment =>
      have := (h.assessed kind hkind howner).2
      rw [hid] at this
      cases this
  | nobody =>
      rw [EventKind.owner_eq_nobody_iff.1 howner] at hkind
      have := (h.unowned hkind).1
      rw [hid] at this
      cases this

end Row

/-! ## Stores -/

structure Store.Sound (s : Store) : Prop where
  numbered : s.Numbered
  rows : ∀ row ∈ s.rows, row.Sound

/-- No event is lost, and each keeps what it keeps. -/
def Store.Evolves (s s' : Store) : Prop :=
  ∀ row ∈ s.rows, ∃ row' ∈ s'.rows, row.Becomes row'

namespace Store

variable {s s' s'' : Store} {before row : Row}

theorem Sound.of_rows_eq_nil (h : s.rows = []) : s.Sound where
  numbered := by unfold Numbered; rw [h]; exact List.nodup_nil
  rows := by rw [h]; exact fun _ hmem => absurd hmem List.not_mem_nil

theorem Sound.replace (h : s.Sound) (hrow : row.Sound) : (s.replace row).Sound where
  numbered := h.numbered.replace row
  rows := by
    intro r hr
    rcases mem_replace hr with rfl | ⟨hr, -⟩
    · exact hrow
    · exact h.rows r hr

theorem Sound.add (h : s.Sound) (hid : row.id = s.nextId) (hrow : row.Sound) :
    (s.add row).Sound where
  numbered := h.numbered.add hid
  rows := by
    intro r hr
    rcases mem_add.1 hr with hr | rfl
    · exact h.rows r hr
    · exact hrow

namespace Evolves

theorem refl (s : Store) : s.Evolves s :=
  fun row hrow => ⟨row, hrow, .refl row⟩

theorem trans (h : s.Evolves s') (h' : s'.Evolves s'') : s.Evolves s'' := by
  intro row hrow
  rcases h row hrow with ⟨row', hrow', hb⟩
  rcases h' row' hrow' with ⟨row'', hrow'', hb'⟩
  exact ⟨row'', hrow'', hb.trans hb'⟩

theorem add (s : Store) (row : Row) : s.Evolves (s.add row) :=
  fun r hr => ⟨r, mem_add.2 (.inl hr), .refl r⟩

theorem replace (h : s.Numbered) (hmem : before ∈ s.rows) (hb : before.Becomes row) :
    s.Evolves (s.replace row) := by
  intro r hr
  by_cases hid : r.id = row.id
  · -- Numbers differ, so the row that gives way is `before`.
    have : r = before := h.eq_of_id_eq hr hmem (hid.trans hb.id)
    subst this
    exact ⟨row, mem_replace_of_mem hr hid, hb⟩
  · refine ⟨r, ?_, .refl r⟩
    unfold Store.replace
    exact List.mem_map.2 ⟨r, hr, if_neg hid⟩

end Evolves
end Store
end TenderDesk
