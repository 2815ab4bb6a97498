import Mathlib.Data.List.Nodup
import TenderDesk.Schema.Codec
import TenderDesk.Store.Basic

/-!
# Links — one order of suppliers under two names

An organisation is one company and a company one organisation, as long as the links are one-to-one
(`Store.OneToOne`). Then it makes no difference under which of the two names suppliers are added to
a list or taken off it: `map_appendNew` and `map_erase_of_inj`.
-/

namespace TenderDesk

variable {α β : Type} [BEq β] [LawfulBEq β]

/-! ## Lists that are searched by a key -/

/-- In a list without repeated keys, a search by key finds whatever has the key. -/
theorem find?_eq_some_iff_of_nodup {f : α → β} {xs : List α} (h : (xs.map f).Nodup)
    {x : α} {b : β} :
    xs.find? (fun a => f a == b) = some x ↔ x ∈ xs ∧ f x = b := by
  constructor
  · intro hfind
    exact ⟨List.mem_of_find?_eq_some hfind, beq_iff_eq.1 (List.find?_some hfind :)⟩
  · rintro ⟨hx, rfl⟩
    cases hfind : xs.find? (fun a => f a == f x) with
    | none =>
        have hnone := List.find?_eq_none.1 hfind x hx
        simp at hnone
    | some y =>
        have hy : y ∈ xs := List.mem_of_find?_eq_some hfind
        have hkey : f y = f x := beq_iff_eq.1 (List.find?_some hfind :)
        rw [List.inj_on_of_nodup_map h hy hx hkey]

/-! ## Lists that grow by what is new -/

variable [BEq α] [LawfulBEq α]

/-- What is not listed yet, put behind what is listed. -/
def appendNew (listed new : List α) : List α :=
  listed ++ new.filter fun a => !listed.contains a

theorem nil_appendNew (new : List α) : appendNew [] new = new := by
  simp [appendNew]

theorem mem_appendNew {listed new : List α} {a : α} :
    a ∈ appendNew listed new ↔ a ∈ listed ∨ a ∈ new := by
  unfold appendNew
  by_cases h : a ∈ listed <;> simp [h]

theorem appendNew_nodup {listed new : List α} (hlisted : listed.Nodup) (hnew : new.Nodup) :
    (appendNew listed new).Nodup := by
  refine List.nodup_append.2 ⟨hlisted, hnew.filter _, ?_⟩
  intro a ha b hb hab
  have hfresh := (List.mem_filter.1 hb).2
  rw [← hab, List.contains_iff_mem.2 ha] at hfresh
  cases hfresh

/-- Appending one after the other what is not listed yet. -/
theorem foldl_eq_appendNew {new : List α} (h : new.Nodup) (listed : List α) :
    new.foldl (fun listed a => if listed.contains a then listed else listed ++ [a]) listed =
      appendNew listed new := by
  induction new generalizing listed with
  | nil => simp [appendNew]
  | cons a rest ih =>
      rcases List.nodup_cons.1 h with ⟨ha, hrest⟩
      rw [List.foldl_cons, ih hrest]
      by_cases hmem : a ∈ listed
      · simp [appendNew, hmem]
      · -- The rest does not hold `a` again, so it is as new to the longer list.
        have hsame : rest.filter (fun b => !(listed ++ [a]).contains b) =
            rest.filter fun b => !listed.contains b := by
          apply List.filter_congr
          intro b hb
          have hne : b ≠ a := fun hba => ha (hba ▸ hb)
          simp [hne]
        have hnew : listed.contains a = false := by simpa using hmem
        calc
          appendNew (if listed.contains a then listed else listed ++ [a]) rest
              = listed ++ [a] ++ rest.filter (fun b => !listed.contains b) := by
                rw [hnew, ← hsame]
                rfl
          _ = appendNew listed (a :: rest) := by simp [appendNew, hmem]

theorem nodup_eraseDups (xs : List α) : xs.eraseDups.Nodup := by
  -- What is left after the first value is filtered, so the induction is on the length.
  induction hlength : xs.length using Nat.strongRecOn generalizing xs with
  | _ n ih =>
      cases xs with
      | nil => exact List.nodup_nil
      | cons a rest =>
          have hshorter : (rest.filter fun b => !b == a).length < n := by
            have hfilter := List.length_filter_le (fun b => !b == a) rest
            simp only [List.length_cons] at hlength
            omega
          rw [List.eraseDups_cons]
          refine List.nodup_cons.2 ⟨?_, ih _ hshorter _ rfl⟩
          simp [List.mem_eraseDups]

theorem map_appendNew {f : α → β} {listed new : List α}
    (h : ∀ a ∈ listed, ∀ b ∈ new, f b = f a → b = a) :
    (appendNew listed new).map f = appendNew (listed.map f) (new.map f) := by
  have hsame : (new.filter fun b => !listed.contains b) =
      new.filter fun b => !(listed.map f).contains (f b) := by
    apply List.filter_congr
    intro b hb
    have hiff : f b ∈ listed.map f ↔ b ∈ listed := by
      constructor
      · intro hfb
        rcases List.mem_map.1 hfb with ⟨a, ha, hab⟩
        rw [h a ha b hb hab.symm]
        exact ha
      · exact List.mem_map_of_mem
    by_cases hb' : b ∈ listed
    · rw [List.contains_iff_mem.2 hb', List.contains_iff_mem.2 (hiff.2 hb')]
    · have hfb : f b ∉ listed.map f := fun hfb => hb' (hiff.1 hfb)
      simp [hb', hfb]
  unfold appendNew
  rw [List.map_append, hsame, List.filter_map]
  rfl

theorem map_erase_of_inj {f : α → β} {listed : List α} {a : α}
    (h : ∀ b ∈ listed, f b = f a → b = a) :
    (listed.erase a).map f = (listed.map f).erase (f a) := by
  induction listed with
  | nil => rfl
  | cons b rest ih =>
      by_cases hba : b = a
      · simp [hba]
      · have hf : f b ≠ f a := fun hf => hba (h b List.mem_cons_self hf)
        have hrest := ih fun c hc => h c (List.mem_cons_of_mem b hc)
        simp [hba, hf, hrest]

/-! ## Links -/

namespace Store

/-- No organisation is two companies and no company two organisations, and the store can be asked
for each company. -/
structure OneToOne (s : Store) : Prop where
  organisations : (s.links.map (·.organisation)).Nodup
  companies : (s.links.map (·.company)).Nodup
  words : ∀ link ∈ s.links, Schema.Codec.fitsWord link.company = true

namespace OneToOne

variable {s : Store} {a b link : Link}

theorem linkOf?_eq_some_iff (h : s.OneToOne) {organisation : String} :
    s.linkOf? organisation = some link ↔ link ∈ s.links ∧ link.organisation = organisation :=
  find?_eq_some_iff_of_nodup h.organisations

theorem linkOfCompany?_eq_some_iff (h : s.OneToOne) {company : Int} :
    s.linkOfCompany? company = some link ↔ link ∈ s.links ∧ link.company = company :=
  find?_eq_some_iff_of_nodup h.companies

theorem eq_of_organisation (h : s.OneToOne) (ha : a ∈ s.links) (hb : b ∈ s.links)
    (hab : b.organisation = a.organisation) : b = a :=
  List.inj_on_of_nodup_map h.organisations hb ha hab

theorem eq_of_company (h : s.OneToOne) (ha : a ∈ s.links) (hb : b ∈ s.links)
    (hab : b.company = a.company) : b = a :=
  List.inj_on_of_nodup_map h.companies hb ha hab

end OneToOne
end Store
end TenderDesk
