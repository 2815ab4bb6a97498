import Mathlib.Data.List.TakeWhile
import TenderDesk.Json.Parser
import TenderDesk.Proofs.Number.Reading

/-!
# Extent — how long the integers of a parsed text are

An integer with more than `Number.maxDigits` digits is refused by the parser, so every integer in a
value that was parsed can be written out again (`Short`, `parse_short`).
-/

namespace TenderDesk

namespace Number

/-- The integer has no more digits than an integer text may have. -/
def IsShort (i : Int) : Prop :=
  i.natAbs < 10 ^ maxDigits

theorem isShort_of_lt {i : Int} (h : i.natAbs < 10 ^ 19) : IsShort i := by
  have hpow : 10 ^ 19 ≤ 10 ^ maxDigits := Nat.pow_le_pow_right (by decide) (by decide)
  exact Nat.lt_of_lt_of_le h hpow

theorem isShort_signed {ds : List Char} (negative : Bool) (h : ∀ c ∈ ds, Text.isDigit c = true)
    (hlength : ds.length ≤ maxDigits) : IsShort (signed negative (Text.digitsValue ds)) := by
  have hvalue : Text.digitsValue ds < 10 ^ ds.length := Text.digitsValue_lt h
  have hpow : 10 ^ ds.length ≤ 10 ^ maxDigits := Nat.pow_le_pow_right (by decide) hlength
  have habs : (signed negative (Text.digitsValue ds)).natAbs = Text.digitsValue ds := by
    cases negative <;> simp [signed]
  rw [IsShort, habs]
  exact Nat.lt_of_lt_of_le hvalue hpow

end Number

namespace Json

/-- No integer in the value has too many digits. -/
inductive Short : Json → Prop
  | null : Short .null
  | bool (value : Bool) : Short (.bool value)
  | int {value : Int} (h : Number.IsShort value) : Short (.int value)
  | real (value : Binary64) : Short (.real value)
  | str (value : RawText) : Short (.str value)
  | arr {items : List Json} (h : ∀ j ∈ items, Short j) : Short (.arr items)
  | obj {members : List (RawText × Json)} (h : ∀ m ∈ members, Short m.2) : Short (.obj members)

/-! ## Members -/

theorem forall_mem_setMember {P : Json → Prop} {name : RawText} {value : Json}
    {ms : List (RawText × Json)} (hvalue : P value) (h : ∀ m ∈ ms, P m.2) :
    ∀ m ∈ setMember name value ms, P m.2 := by
  induction ms with
  | nil => simpa [setMember] using hvalue
  | cons m ms ih =>
      obtain ⟨k, v⟩ := m
      have hrest := ih fun m hm => h m (List.mem_cons_of_mem _ hm)
      by_cases hk : k = name
      · simp only [setMember, if_pos hk, List.forall_mem_cons]
        exact ⟨hvalue, fun m hm => h m (List.mem_cons_of_mem _ hm)⟩
      · simp only [setMember, if_neg hk, List.forall_mem_cons]
        exact ⟨h (k, v) List.mem_cons_self, hrest⟩

theorem forall_mem_unique {P : Json → Prop} {ms : List (RawText × Json)} (h : ∀ m ∈ ms, P m.2) :
    ∀ m ∈ unique ms, P m.2 := by
  have hfold : ∀ acc : List (RawText × Json), (∀ m ∈ acc, P m.2) →
      ∀ m ∈ ms.foldl (fun acc m => setMember m.1 m.2 acc) acc, P m.2 := by
    induction ms with
    | nil => exact fun acc hacc => hacc
    | cons m ms ih =>
        intro acc hacc
        apply ih fun m hm => h m (List.mem_cons_of_mem _ hm)
        exact forall_mem_setMember (h m List.mem_cons_self) hacc
  exact hfold [] (by simp)

theorem mem_of_find? {name : RawText} {ms : List (RawText × Json)} {j : Json}
    (h : find? name ms = some j) : ∃ m ∈ ms, m.2 = j := by
  induction ms with
  | nil => cases h
  | cons m ms ih =>
      obtain ⟨k, v⟩ := m
      by_cases hk : k = name
      · rw [find?, if_pos hk] at h
        exact ⟨(k, v), List.mem_cons_self, Option.some.inj h⟩
      · rw [find?, if_neg hk] at h
        obtain ⟨m, hm, hvalue⟩ := ih h
        exact ⟨m, List.mem_cons_of_mem _ hm, hvalue⟩

theorem Short.of_find? {name : RawText} {ms : List (RawText × Json)} {j : Json}
    (hms : ∀ m ∈ ms, Short m.2) (h : find? name ms = some j) : Short j := by
  obtain ⟨m, hm, rfl⟩ := mem_of_find? h
  exact hms m hm

/-! ## Numbers and words -/

section

variable {c c' : Cursor} {v : Json}

theorem wholeDigits_isDigit (cs : List Char) : ∀ d ∈ wholeDigits cs, Text.isDigit d = true := by
  intro d hd
  unfold wholeDigits at hd
  split at hd
  · rw [List.mem_singleton.1 hd]
    decide
  · exact List.mem_takeWhile_imp hd

/-- Only a number without fraction and exponent is an integer, and it is not too long. -/
theorem readNumber_short (h : readNumber c = .ok (some (v, c'))) : v.Short := by
  unfold readNumber at h
  simp only at h
  -- Whatever the sign is, the rest is read in the same way.
  split at h
  all_goals
    split at h
    · cases h
    · split at h
      · split at h
        · split at h
          · cases h
          · rename_i hlength
            cases h
            exact .int (Number.isShort_signed _ (wholeDigits_isDigit _) (Nat.not_lt.1 hlength))
        · cases h
          exact .real _
      · cases h
        exact .real _

theorem readWord?_short (h : readWord? c = some (v, c')) : v.Short := by
  unfold readWord? at h
  obtain ⟨w, hw, hv⟩ := Option.map_eq_some_iff.1 h
  have hvalue : w.2 = v := congrArg Prod.fst hv
  have hmem : w ∈ wordValues := List.mem_of_find?_eq_some hw
  rw [← hvalue]
  simp only [wordValues, List.mem_cons, List.not_mem_nil, or_false] at hmem
  rcases hmem with rfl | rfl | rfl | rfl | rfl | rfl
  · exact .null
  all_goals constructor

end

/-! ## Values -/

theorem map_eq_ok {α β : Type} {x : Except Fault α} {f : α → β} {b : β} (h : x.map f = .ok b) :
    ∃ a, x = .ok a ∧ f a = b := by
  cases x with
  | error fault => cases h
  | ok a => exact ⟨a, rfl, Except.ok.inj h⟩

/-- What is read with some fuel is short. -/
structure ReadsShort (fuel : Nat) : Prop where
  value : ∀ {room : Nat} {c c' : Cursor} {v : Json}, readValue fuel room c = .ok (v, c') → v.Short
  items : ∀ {room : Nat} {c c' : Cursor} {vs : List Json},
    readItems fuel room c = .ok (vs, c') → ∀ v ∈ vs, v.Short
  members : ∀ {room : Nat} {c c' : Cursor} {ms : List (RawText × Json)},
    readMembers fuel room c = .ok (ms, c') → ∀ m ∈ ms, m.2.Short

section

variable {fuel room : Nat} {c c' : Cursor}

theorem readValue_short (reads : ReadsShort fuel) {v : Json}
    (h : readValue (fuel + 1) room c = .ok (v, c')) : v.Short := by
  unfold readValue at h
  split at h
  · cases h
  · obtain ⟨⟨s, _⟩, _, hv⟩ := map_eq_ok h
    cases hv
    exact .str s
  · split at h
    · cases h
    · simp only at h
      split at h
      · cases h
        exact .arr (by simp)
      · obtain ⟨⟨vs, _⟩, hitems, hv⟩ := map_eq_ok h
        cases hv
        exact .arr (reads.items hitems)
  · split at h
    · cases h
    · simp only at h
      split at h
      · cases h
        exact .obj (by simp)
      · obtain ⟨⟨ms, _⟩, hmembers, hv⟩ := map_eq_ok h
        cases hv
        exact .obj (forall_mem_unique (reads.members hmembers))
  · split at h
    · rename_i hword
      cases h
      exact readWord?_short hword
    · split at h
      · cases h
      · rename_i hnumber
        cases h
        exact readNumber_short hnumber
      · cases h

theorem readItems_short (reads : ReadsShort fuel) {vs : List Json}
    (h : readItems (fuel + 1) room c = .ok (vs, c')) : ∀ v ∈ vs, v.Short := by
  unfold readItems at h
  split at h
  · cases h
  · rename_i hvalue
    have hfirst := reads.value hvalue
    simp only at h
    split at h
    · cases h
      simpa using hfirst
    · obtain ⟨⟨rest, _⟩, hrest, hvs⟩ := map_eq_ok h
      cases hvs
      exact List.forall_mem_cons.2 ⟨hfirst, reads.items hrest⟩
    · cases h

theorem readMembers_short (reads : ReadsShort fuel) {ms : List (RawText × Json)}
    (h : readMembers (fuel + 1) room c = .ok (ms, c')) : ∀ m ∈ ms, m.2.Short := by
  unfold readMembers at h
  split at h
  · split at h
    · cases h
    · simp only at h
      split at h
      · split at h
        · cases h
        · rename_i hvalue
          have hfirst := reads.value hvalue
          split at h
          · cases h
            simpa using hfirst
          · obtain ⟨⟨rest, _⟩, hrest, hms⟩ := map_eq_ok h
            cases hms
            exact List.forall_mem_cons.2 ⟨hfirst, reads.members hrest⟩
          · cases h
      · cases h
  · cases h

end

theorem readsShort (fuel : Nat) : ReadsShort fuel := by
  induction fuel with
  | zero =>
      constructor
      all_goals
        intro room c c' _ h
        cases h
  | succ fuel ih => exact ⟨readValue_short ih, readItems_short ih, readMembers_short ih⟩

theorem parse_short {room : Nat} {text : String} {j : Json} (h : parse room text = .ok j) :
    j.Short := by
  unfold parse at h
  simp only at h
  split at h
  · cases h
  · split at h
    · cases h
    · rename_i hvalue
      split at h
      · cases h
        exact (readsShort _).value hvalue
      · cases h

end Json
end TenderDesk
