import Mathlib.Data.List.Find
import Mathlib.Data.List.Nodup
import TenderDesk.Store.Basic

/-!
# Rows — the numbers of the rows of a store

`Store.Numbered` says that no two rows have the same number. Replacing a row keeps all numbers, and
a new row gets one that no row has, under which it is found.
-/

namespace TenderDesk
namespace Store

variable {s : Store} {a b row : Row}

/-- No two rows have the same number. -/
def Numbered (s : Store) : Prop :=
  (s.rows.map (·.id)).Nodup

theorem replace_replace (h : a.id = b.id) : (s.replace a).replace b = s.replace b := by
  unfold replace
  simp only [List.map_map, Store.mk.injEq, true_and]
  apply List.map_congr_left
  intro r _
  -- Both replacements go for the rows of one number, and the second one wins.
  by_cases hr : r.id = b.id <;> simp [hr, h]

@[simp] theorem replace_ids : (s.replace row).rows.map (·.id) = s.rows.map (·.id) := by
  unfold replace
  rw [List.map_map]
  apply List.map_congr_left
  intro r _
  by_cases hr : r.id = row.id <;> simp [hr]

theorem mem_of_row? {project : Int} {number : Nat} (h : s.row? project number = some row) :
    row ∈ s.rows :=
  List.mem_of_find?_eq_some h

theorem of_row? {project : Int} {number : Nat} (h : s.row? project number = some row) :
    row.project = project ∧ row.id = number := by
  have hfound := List.find?_some h
  simpa only [Bool.and_eq_true, beq_iff_eq] using hfound

theorem mem_replace_of_mem (h : a ∈ s.rows) (hid : a.id = row.id) : row ∈ (s.replace row).rows := by
  unfold replace
  exact List.mem_map.2 ⟨a, h, if_pos hid⟩

/-- A row that takes the place of another is found where that one was. -/
theorem row?_replace_self (h : s.Numbered) (ha : s.row? a.project a.id = some a)
    (hid : row.id = a.id) (hproject : row.project = a.project) :
    (s.replace row).row? a.project a.id = some row := by
  have hsame : ∀ r ∈ s.rows,
      ((fun r : Row => r.project == a.project && r.id == a.id) ∘
        fun r => if r.id = row.id then row else r) r =
          (r.project == a.project && r.id == a.id) := by
    intro r hr
    by_cases hrow : r.id = row.id
    · have hra : r = a :=
        List.inj_on_of_nodup_map h hr (mem_of_row? ha) (hrow.trans hid)
      simp [hra, hid, hproject]
    · simp [hrow]
  unfold row? replace at *
  rw [List.find?_map, List.find?_congr hsame, ha]
  simp [hid]

/-- A row that is replaced does not get in the way of the others. -/
theorem row?_replace_other {project : Int} {number : Nat} (hne : number ≠ row.id) :
    (s.replace row).row? project number = s.row? project number := by
  have hsame : ∀ r ∈ s.rows,
      ((fun r : Row => r.project == project && r.id == number) ∘
        fun r => if r.id = row.id then row else r) r =
          (r.project == project && r.id == number) := by
    intro r _
    by_cases hrow : r.id = row.id
    · have hmiss : (row.id == number) = false := beq_eq_false_iff_ne.2 hne.symm
      simp [hrow, hmiss]
    · simp [hrow]
  unfold row? replace
  rw [List.find?_map, List.find?_congr hsame]
  cases hfound : s.rows.find? fun r => r.project == project && r.id == number with
  | none => rfl
  | some r =>
      have hother : r.id ≠ row.id := (of_row? hfound).2.trans_ne hne
      simp [hother]

theorem mem_add : a ∈ (s.add row).rows ↔ a ∈ s.rows ∨ a = row := by
  simp [add]

/-- A new row is found under its number. -/
theorem row?_add (h : row.id = s.nextId) : (s.add row).row? row.project row.id = some row := by
  have hnew : s.rows.find? (fun r => r.project == row.project && r.id == row.id) = none := by
    refine List.find?_eq_none.2 fun r hr => ?_
    have hne : r.id ≠ row.id := h ▸ Nat.ne_of_lt (id_lt_nextId hr)
    simp [hne]
  unfold row? add
  rw [List.find?_append, hnew]
  simp

theorem replace_add (h : a.id = s.nextId) (hid : b.id = a.id) :
    (s.add a).replace b = s.add b := by
  have hsame : s.rows.map (fun r => if r.id = b.id then b else r) = s.rows := by
    refine (List.map_congr_left fun r hr => ?_).trans (List.map_id s.rows)
    have hne : r.id ≠ b.id := (hid.trans h) ▸ Nat.ne_of_lt (id_lt_nextId hr)
    exact if_neg hne
  unfold replace add
  rw [List.map_append, hsame, List.map_singleton, if_pos hid.symm]

/-! ## Words -/

theorem fits_iff : s.fits = true ↔ ∀ row ∈ s.rows, row.fits = true := by
  unfold fits
  rw [List.all_eq_true]

theorem fits_replace (h : s.fits = true) (hrow : row.fits = true) :
    (s.replace row).fits = true := by
  rw [fits_iff] at h ⊢
  intro r hr
  rcases mem_replace hr with rfl | ⟨hmem, -⟩
  · exact hrow
  · exact h r hmem

theorem fits_add (h : s.fits = true) (hrow : row.fits = true) : (s.add row).fits = true := by
  rw [fits_iff] at h ⊢
  intro r hr
  rcases mem_add.1 hr with hmem | rfl
  · exact h r hmem
  · exact hrow

/-! ## Numbers -/

namespace Numbered

theorem eq_of_id_eq (h : s.Numbered) (ha : a ∈ s.rows) (hb : b ∈ s.rows) (hid : a.id = b.id) :
    a = b :=
  List.inj_on_of_nodup_map h ha hb hid

theorem replace (h : s.Numbered) (row : Row) : (s.replace row).Numbered := by
  unfold Numbered
  rw [replace_ids]
  exact h

theorem add (h : s.Numbered) (hid : row.id = s.nextId) : (s.add row).Numbered := by
  unfold Numbered Store.add
  rw [List.map_append, List.map_singleton]
  refine List.nodup_append.2 ⟨h, List.nodup_singleton _, ?_⟩
  -- The new number is larger than every number in use.
  intro x hx y hy
  rcases List.mem_map.1 hx with ⟨r, hr, rfl⟩
  rw [List.mem_singleton.1 hy, hid]
  exact Nat.ne_of_lt (id_lt_nextId hr)

/-- A row of a store whose rows have different numbers can be replaced by itself. -/
theorem replace_self (h : s.Numbered) (ha : a ∈ s.rows) : s.replace a = s := by
  have same : s.rows.map (fun r => if r.id = a.id then a else r) = s.rows := by
    refine (List.map_congr_left fun r hr => ?_).trans (List.map_id s.rows)
    by_cases hid : r.id = a.id
    · rw [if_pos hid]
      exact h.eq_of_id_eq ha hr hid.symm
    · exact if_neg hid
  unfold Store.replace
  rw [same]

end Numbered
end Store
end TenderDesk
