import Mathlib.Data.List.Nodup
import TenderDesk.Json.Parser
import TenderDesk.Proofs.Json.Extent

/-!
# Members — the names in objects

* Objects that are read from a text have every name once (`distinct_of_parse`).
* In members with distinct names the value of a name is found wherever it stands, so members may be
  put over others one by one (`find?_foldl_setMember`).
-/

namespace TenderDesk
namespace Json

/-- Every name has one value. -/
def Distinct (ms : List (RawText × Json)) : Prop :=
  (ms.map (·.1)).Nodup

variable {ms : List (RawText × Json)}

theorem find?_eq_none_iff {name : RawText} : find? name ms = none ↔ name ∉ ms.map (·.1) := by
  induction ms with
  | nil => simp [find?]
  | cons m ms ih =>
      obtain ⟨k, v⟩ := m
      by_cases hk : k = name
      · simp [find?, hk]
      · simp [find?, hk, Ne.symm hk, ih]

theorem names_setMember (name : RawText) (value : Json) :
    (setMember name value ms).map (·.1) =
      if name ∈ ms.map (·.1) then ms.map (·.1) else ms.map (·.1) ++ [name] := by
  induction ms with
  | nil => rfl
  | cons m ms ih =>
      obtain ⟨k, v⟩ := m
      by_cases hk : k = name
      · simp [setMember, hk]
      · simp only [setMember, if_neg hk, List.map_cons, ih, List.mem_cons, Ne.symm hk, false_or]
        split <;> rfl

theorem Distinct.setMember (h : Distinct ms) (name : RawText) (value : Json) :
    Distinct (setMember name value ms) := by
  unfold Distinct
  rw [names_setMember]
  split
  · exact h
  · rename_i hnew
    exact List.Nodup.append h (List.nodup_singleton name) (by simpa using hnew)

theorem distinct_unique (ms : List (RawText × Json)) : Distinct (unique ms) := by
  have hput : ∀ acc : List (RawText × Json), Distinct acc →
      Distinct (ms.foldl (fun acc m => Json.setMember m.1 m.2 acc) acc) := by
    induction ms with
    | nil => exact fun acc h => h
    | cons m ms ih => exact fun acc h => ih _ (h.setMember m.1 m.2)
  exact hput [] List.nodup_nil

/-- Members that are put over others hide those of their names, and no others. -/
theorem find?_foldl_setMember {entries : List (RawText × Json)} (h : Distinct entries)
    (name : RawText) :
    find? name (entries.foldl (fun acc m => Json.setMember m.1 m.2 acc) ms)
      = (find? name entries).or (find? name ms) := by
  induction entries generalizing ms with
  | nil => rfl
  | cons m entries ih =>
      obtain ⟨k, v⟩ := m
      obtain ⟨hk, hrest⟩ := List.nodup_cons.1 h
      rw [List.foldl_cons, ih hrest]
      by_cases hname : k = name
      · subst hname
        rw [find?_setMember_self, find?_eq_none_iff.2 hk]
        simp [find?]
      · rw [find?_setMember_of_ne (Ne.symm hname)]
        simp [find?, hname]

theorem find?_of_mem (h : Distinct ms) {m : RawText × Json} (hm : m ∈ ms) :
    find? m.1 ms = some m.2 := by
  induction ms with
  | nil => cases hm
  | cons first ms ih =>
      obtain ⟨k, v⟩ := first
      obtain ⟨hk, hrest⟩ := List.nodup_cons.1 h
      rcases List.mem_cons.1 hm with rfl | hm
      · simp [find?]
      · have hne : k ≠ m.1 := fun heq => hk (List.mem_map.2 ⟨m, hm, heq.symm⟩)
        rw [find?, if_neg hne, ih hrest hm]

/-! ## Objects in texts -/

theorem readNumber_ne_obj {c c' : Cursor} : readNumber c ≠ .ok (some (.obj ms, c')) := by
  intro h
  unfold readNumber at h
  simp only at h
  split at h
  all_goals
    split at h
    · cases h
    · split at h
      · split at h
        · split at h <;> cases h
        · cases h
      · cases h

theorem readWord?_ne_obj {c c' : Cursor} : readWord? c ≠ some (.obj ms, c') := by
  intro h
  unfold readWord? at h
  obtain ⟨w, hw, hv⟩ := Option.map_eq_some_iff.1 h
  have hvalue : w.2 = .obj ms := congrArg Prod.fst hv
  have hmem : w ∈ wordValues := List.mem_of_find?_eq_some hw
  simp only [wordValues, List.mem_cons, List.not_mem_nil, or_false] at hmem
  rcases hmem with rfl | rfl | rfl | rfl | rfl | rfl <;> cases hvalue

theorem distinct_of_readValue {fuel room : Nat} {c c' : Cursor}
    (h : readValue fuel room c = .ok (.obj ms, c')) : Distinct ms := by
  cases fuel with
  | zero => cases h
  | succ fuel =>
      unfold readValue at h
      -- Texts and lists are no objects, and neither are words and numbers.
      split at h
      · cases h
      · obtain ⟨_, -, hv⟩ := map_eq_ok h
        cases hv
      · split at h
        · cases h
        · simp only at h
          split at h
          · cases h
          · obtain ⟨_, -, hv⟩ := map_eq_ok h
            cases hv
      · split at h
        · cases h
        · simp only at h
          split at h
          · cases h
            exact List.nodup_nil
          · obtain ⟨_, -, hv⟩ := map_eq_ok h
            cases hv
            exact distinct_unique _
      · split at h
        · rename_i hword
          cases h
          exact absurd hword readWord?_ne_obj
        · split at h
          · cases h
          · rename_i hnumber
            cases h
            exact absurd hnumber readNumber_ne_obj
          · cases h

theorem distinct_of_parse {room : Nat} {text : String} (h : parse room text = .ok (.obj ms)) :
    Distinct ms := by
  unfold parse at h
  simp only at h
  split at h
  · cases h
  · split at h
    · cases h
    · rename_i hvalue
      split at h
      · cases h
        exact distinct_of_readValue hvalue
      · cases h

end Json
end TenderDesk
