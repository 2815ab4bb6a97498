import Mathlib.Algebra.Ring.Int.Defs
import Mathlib.Data.List.TakeWhile
import TenderDesk.Document.Check
import TenderDesk.Document.Summary

/-!
# Check — what is looked at before a file is uploaded

* `Extends base ext` says that a name ends with a dot and `ext`, and that more than dots stands
  before this dot. It decides the extension of a file (`extension_of_extends`,
  `extension_of_unextended`).
* `checkFile_eq_ok_iff`: a file passes exactly when its extension is allowed and it is not too
  large.
* `totalSize_ofSnapshot`: the documents on a record are as large as its attachments together.
-/

namespace TenderDesk
namespace Document

/-! ## Extensions -/

section

variable {sep : Char} {front last : List Char}

/-- What follows the last separator holds none. -/
theorem behind_last (h : sep ∉ last) :
    ((front ++ sep :: last).reverse.takeWhile (· != sep)).reverse = last := by
  have hne : ∀ c ∈ last.reverse, (c != sep) = true := by
    intro c hc
    simpa using fun heq : c = sep => h (heq ▸ List.mem_reverse.1 hc)
  have hsplit : (front ++ sep :: last).reverse = last.reverse ++ sep :: front.reverse := by simp
  rw [hsplit, List.takeWhile_append_of_pos hne]
  simp

theorem exists_behind_last {cs : List Char} (h : sep ∈ cs) :
    ∃ front last, cs = front ++ sep :: last ∧ sep ∉ last := by
  rcases List.eq_append_cons_of_mem (List.mem_reverse.2 h) with ⟨last, front, hsplit, hlast⟩
  have hcs : cs = front.reverse ++ sep :: last.reverse := by
    simpa using congrArg List.reverse hsplit
  exact ⟨front.reverse, last.reverse, hcs, by simpa using hlast⟩

theorem baseName_of_folder (h : '/' ∉ last) : baseName (front ++ '/' :: last) = last :=
  behind_last h

theorem baseName_of_plain (h : '/' ∉ last) : baseName last = last := by
  have hall : last.reverse.takeWhile (· != '/') = last.reverse := by
    apply List.takeWhile_eq_self_iff.2
    intro c hc
    simpa using fun heq : c = '/' => h (heq ▸ List.mem_reverse.1 hc)
  simp [baseName, hall]

end

/-- Dots are passed up to the first other character. -/
theorem dropWhile_dots (dots : Nat) {rest : List Char} (h : ∀ c ∈ rest.head?, c ≠ '.') :
    (List.replicate dots '.' ++ rest).dropWhile (· == '.') = rest := by
  rw [List.dropWhile_append_of_pos (by simp [List.mem_replicate])]
  cases rest with
  | nil => rfl
  | cons c rest => simpa using h c rfl

/-- In front of the first character that is no dot there are only dots. -/
theorem exists_dots {cs : List Char} (h : ∃ c ∈ cs, c ≠ '.') :
    ∃ dots c rest, cs = List.replicate dots '.' ++ c :: rest ∧ c ≠ '.' := by
  induction cs with
  | nil => simp at h
  | cons d cs ih =>
      by_cases hd : d = '.'
      · have htail : ∃ c ∈ cs, c ≠ '.' := by simpa [hd] using h
        rcases ih htail with ⟨dots, c, rest, rfl, hc⟩
        exact ⟨dots + 1, c, rest, by simp [hd, List.replicate_succ], hc⟩
      · exact ⟨0, d, cs, rfl, hd⟩

/-- Behind dots and a further character the name ends with a dot and `ext`. -/
inductive Extends : (base ext : List Char) → Prop
  | intro (dots : Nat) {c : Char} (stem : List Char) {ext : List Char} (hc : c ≠ '.')
      (hext : '.' ∉ ext) : Extends (List.replicate dots '.' ++ c :: (stem ++ '.' :: ext)) ext

section

variable {name : String} {ext : List Char}

theorem extension_of_extends (h : Extends (baseName name.toList) ext) :
    extension name = Text.lower (String.ofList ext) := by
  unfold extension
  generalize baseName name.toList = base at h ⊢
  cases h with
  | intro dots stem hc hext =>
      rename_i c
      have hstem : (List.replicate dots '.' ++ c :: (stem ++ '.' :: ext)).dropWhile (· == '.') =
          c :: (stem ++ '.' :: ext) := dropWhile_dots dots (by simpa using hc)
      have hlast : afterLastDot? (c :: (stem ++ '.' :: ext)) = some ext := by
        rw [← List.cons_append, afterLastDot?, behind_last hext]
        simp
      simp only [hstem, hlast, Option.getD_some]

/-- A name without a dot behind other characters has no extension. -/
theorem extension_of_unextended (h : ∀ ext, ¬Extends (baseName name.toList) ext) :
    extension name = "" := by
  unfold extension
  generalize baseName name.toList = base at h ⊢
  by_cases hmore : ∃ c ∈ base, c ≠ '.'
  · obtain ⟨dots, c, stem, rfl, hc⟩ := exists_dots hmore
    have hstem : (List.replicate dots '.' ++ c :: stem).dropWhile (· == '.') = c :: stem :=
      dropWhile_dots dots (by simpa using hc)
    by_cases hdot : '.' ∈ stem
    · -- The last dot of the stem would split an extension off.
      obtain ⟨front, last, rfl, hlast⟩ := exists_behind_last hdot
      exact absurd (.intro dots front hc hlast) (h last)
    · have hnone : afterLastDot? (c :: stem) = none := by
        simp [afterLastDot?, hdot, hc.symm]
      simp only [hstem, hnone]
      rfl
  · have hdots : base.dropWhile (· == '.') = [] := by
      rw [List.dropWhile_eq_nil_iff]
      intro c hc
      simpa using fun hne : c ≠ '.' => hmore ⟨c, hc, hne⟩
    rw [hdots]
    rfl

end

/-! ## Files -/

section

variable {rules : DocumentRules} {name : String} {size : Int}

theorem checkFile_of_refused (h : extension name ∉ rules.extensions) :
    checkFile rules name size = .error (.extensionRefused (sorted rules.extensions)) := by
  simp [checkFile, h]

theorem checkFile_of_large (h : extension name ∈ rules.extensions) (hsize : rules.maxSize < size) :
    checkFile rules name size = .error (.fileTooLarge size rules.maxSize) := by
  simp [checkFile, h, hsize]

/-- A file passes exactly when its extension is allowed and it is not too large. -/
theorem checkFile_eq_ok_iff :
    checkFile rules name size = .ok () ↔
      extension name ∈ rules.extensions ∧ size ≤ rules.maxSize := by
  by_cases hext : extension name ∈ rules.extensions
  · by_cases hsize : rules.maxSize < size
    · simp [checkFile_of_large hext hsize, hsize]
    · simp [checkFile, hext, hsize, Int.not_lt.1 hsize]
  · simp [checkFile_of_refused hext, hext]

end

/-! ## Totals -/

/-- The size that an attachment tells, and zero where it tells none. -/
def bytesOf (a : Sourcing.Attachment) : Int :=
  a.size.get?.getD 0

theorem totalSize_ofSnapshot (s : Sourcing.Snapshot) :
    Summary.totalSize (Summary.ofSnapshot s) =
      ((s.buyerItems ++ s.sellerItems).map bytesOf).sum := by
  have hsizes : (Summary.ofSnapshot s).map (·.size) =
      (s.buyerItems ++ s.sellerItems).map bytesOf := by
    simp [Summary.ofSnapshot, Summary.ofAttachment, Function.comp_def]
    rfl
  rw [Summary.totalSize, hsizes, List.sum_eq_foldl]

end Document
end TenderDesk
