import TenderDesk.Text.LowerCase

/-!
# LowerCase — what becomes of the case of ASCII letters

* `Recased a b` says that two texts differ in the case of ASCII letters only.
* `lower_of_recased`: lower-casing does not see such a difference, not even in the letters around a
  capital sigma, on which the form of the sigma depends.
* `lower_eq_empty_iff`: nothing but the empty text is lowered to the empty text.
-/

namespace TenderDesk
namespace Text

/-- Texts that differ in the case of ASCII letters only: `Char.toLower` changes no other letters. -/
def Recased (a b : String) : Prop :=
  a.toList.map Char.toLower = b.toList.map Char.toLower

/-! ## Single characters -/

/-- The upper-case ASCII letters. -/
def capitals : List Char :=
  (List.range 26).map fun n => Char.ofNat (65 + n)

theorem toLower_of_not_capital {c : Char} (h : c ∉ capitals) : c.toLower = c := by
  unfold Char.toLower
  split
  · rename_i hrange
    have hlow : 65 ≤ c.toNat := hrange.1
    have hhigh : c.toNat ≤ 90 := hrange.2
    refine absurd (List.mem_map.2 ⟨c.toNat - 65, List.mem_range.2 (by omega), ?_⟩) h
    rw [Nat.add_sub_cancel' hlow, Char.ofNat_toNat]
  · rfl

/-- What is the same for every capital and its lower-case form is so for all characters. -/
theorem apply_toLower {α : Type} {f : Char → α}
    (h : capitals.map (fun c => f c.toLower) = capitals.map f) (c : Char) : f c.toLower = f c := by
  by_cases hc : c ∈ capitals
  · exact List.map_eq_map_iff.1 h c hc
  · rw [toLower_of_not_capital hc]

theorem lowerChar_toLower (c : Char) : lowerChar c.toLower = lowerChar c :=
  apply_toLower (by decide) c

theorem inRanges_cased_toLower (c : Char) : inRanges cased c.toLower = inRanges cased c :=
  apply_toLower (by decide +kernel) c

theorem inRanges_caseIgnorable_toLower (c : Char) :
    inRanges caseIgnorable c.toLower = inRanges caseIgnorable c :=
  apply_toLower (by decide +kernel) c

theorem isAlpha_toLower (c : Char) : c.toLower.isAlpha = c.isAlpha :=
  apply_toLower (by decide) c

/-- A character that is no ASCII letter is the lower-case form of itself alone. -/
theorem toLower_beq {sep : Char} (hsep : sep.isAlpha = false) (c : Char) :
    (c.toLower == sep) = (c == sep) := by
  by_cases hc : c ∈ capitals
  · have hall : capitals.all Char.isAlpha = true := by decide
    have hletter : c.isAlpha = true := List.all_eq_true.1 hall c hc
    have hne : ∀ d : Char, d.isAlpha = true → (d == sep) = false := by
      intro d hd
      rw [beq_eq_false_iff_ne]
      rintro rfl
      rw [hd] at hsep
      cases hsep
    rw [hne c hletter, hne c.toLower ((isAlpha_toLower c).trans hletter)]
  · rw [toLower_of_not_capital hc]

/-! ## Texts -/

section

variable {a b : String}

theorem seesCased_map (cs : List Char) : seesCased (cs.map Char.toLower) = seesCased cs := by
  have hignored : inRanges caseIgnorable ∘ Char.toLower = inRanges caseIgnorable :=
    funext inRanges_caseIgnorable_toLower
  unfold seesCased
  rw [List.dropWhile_map, hignored]
  cases cs.dropWhile (inRanges caseIgnorable) with
  | nil => rfl
  | cons c rest => exact inRanges_cased_toLower c

theorem lowerFrom_map (before cs : List Char) :
    lowerFrom (before.map Char.toLower) (cs.map Char.toLower) = lowerFrom before cs := by
  -- What was passed goes along: it decides the form of a sigma.
  induction cs generalizing before with
  | nil => rfl
  | cons c rest ih =>
      have hrest := ih (c :: before)
      rw [List.map_cons] at hrest
      have hsigma : (c.toLower == 'Σ') = (c == 'Σ') := toLower_beq rfl c
      simp only [List.map_cons, lowerFrom, hrest, hsigma, seesCased_map, lowerChar_toLower]

theorem lower_of_recased (h : Recased a b) : lower a = lower b := by
  have hmap : ∀ s : String, lower s = String.ofList (lowerFrom [] (s.toList.map Char.toLower)) :=
    fun s => congrArg String.ofList (lowerFrom_map [] s.toList).symm
  rw [hmap a, hmap b, h]

theorem mem_map_toLower_iff {sep : Char} (hsep : sep.isAlpha = false) {cs : List Char} :
    sep ∈ cs.map Char.toLower ↔ sep ∈ cs := by
  have hform : ∀ c : Char, c.toLower = sep ↔ c = sep := by
    intro c
    rw [← beq_iff_eq, toLower_beq hsep, beq_iff_eq]
  simp [hform]

/-- What is no letter is found in both texts or in none. -/
theorem Recased.mem_iff (h : Recased a b) {sep : Char} (hsep : sep.isAlpha = false) :
    sep ∈ a.toList ↔ sep ∈ b.toList := by
  rw [← mem_map_toLower_iff hsep, h, mem_map_toLower_iff hsep]

theorem lowerChar_ne_nil (c : Char) : lowerChar c ≠ [] := by
  unfold lowerChar
  dsimp only
  split
  · nofun
  · split
    · nofun
    · split <;> nofun

theorem lower_eq_empty_iff : lower a = "" ↔ a = "" := by
  constructor
  · intro h
    have hnil : lowerFrom [] a.toList = [] := by
      simpa [lower] using congrArg String.toList h
    cases hcs : a.toList with
    | nil => simpa using congrArg String.ofList hcs
    | cons c rest =>
        rw [hcs, lowerFrom, List.append_eq_nil_iff] at hnil
        split at hnil
        · cases hnil.1
        · exact absurd hnil.1 (lowerChar_ne_nil c)
  · rintro rfl
    rfl

end

end Text
end TenderDesk
