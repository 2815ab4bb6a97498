import Mathlib.Data.List.Induction
import Mathlib.Data.Nat.Digits.Defs
import TenderDesk.Number.Reading

/-!
# Reading — numbers written in plain digits

* A row of ASCII digits is neither trimmed nor regrouped, and is read as its value
  (`readInteger_of_digits`).
* The digits of a number are read as that number as long as they are not too many
  (`readInteger_digits`).
-/

namespace TenderDesk
namespace Text

/-! ## Digits -/

theorem isDigit_eq (c : Char) : isDigit c = c.isDigit := by
  simp only [isDigit, Char.isDigit]
  rfl

theorem code_of_isDigit {c : Char} (h : isDigit c = true) : 48 ≤ c.toNat ∧ c.toNat ≤ 57 := by
  simp only [isDigit, Bool.and_eq_true, decide_eq_true_eq, Char.le_def] at h
  have hlower : '0'.toNat ≤ c.toNat := UInt32.le_iff_toNat_le.1 h.1
  have hupper : c.toNat ≤ '9'.toNat := UInt32.le_iff_toNat_le.1 h.2
  exact ⟨hlower, hupper⟩

theorem code_eq_of_isDigit {c : Char} (h : isDigit c = true) : c.toNat = 48 + digitValue c := by
  have hzero : '0'.toNat = 48 := rfl
  have hcode := code_of_isDigit h
  unfold digitValue
  omega

theorem isDigit_of_mem_digits {n : Nat} {c : Char} (h : c ∈ digits n) : isDigit c = true := by
  rw [isDigit_eq]
  exact Nat.isDigit_of_mem_toDigits (by decide) (by decide) h

theorem digits_ne_nil (n : Nat) : digits n ≠ [] :=
  Nat.toDigits_ne_nil

theorem digitsValue_digits (n : Nat) : digitsValue (digits n) = n := by
  have hfold := @Nat.ofDigitChars_eq_foldl 10 (digits n) 0
  have hvalue : Nat.ofDigitChars 10 (digits n) 0 = n := Nat.ofDigitChars_ten_toDigits
  exact hfold.symm.trans hvalue

theorem digits_injective : Function.Injective digits := by
  intro m n h
  have hvalue : digitsValue (digits m) = digitsValue (digits n) := congrArg digitsValue h
  simpa [digitsValue_digits] using hvalue

theorem length_digits_le_iff {n k : Nat} (h : 0 < k) : (digits n).length ≤ k ↔ n < 10 ^ k :=
  Nat.length_toDigits_le_iff (by decide) h

/-- A row of `k` digits denotes a number below the `k`th power of ten. -/
theorem digitsValue_lt {ds : List Char} (h : ∀ c ∈ ds, isDigit c = true) :
    digitsValue ds < 10 ^ ds.length := by
  induction ds using List.reverseRecOn with
  | nil => simp [digitsValue]
  | append_singleton ds c ih =>
      have hdigit : isDigit c = true := h c (by simp)
      have hcode := code_of_isDigit hdigit
      have hvalue := code_eq_of_isDigit hdigit
      have hinit : digitsValue ds < 10 ^ ds.length := ih fun d hd => h d (by simp [hd])
      have hstep : digitsValue (ds ++ [c]) = 10 * digitsValue ds + digitValue c := by
        simp [digitsValue]
      rw [hstep, List.length_append, List.length_singleton, Nat.pow_succ]
      omega

theorem ne_of_isDigit {c d : Char} (h : isDigit c = true) (hd : isDigit d = false) : c ≠ d := by
  rintro rfl
  rw [h] at hd
  cases hd

theorem isBlank_of_isDigit {c : Char} (h : isDigit c = true) : isBlank c = false := by
  have hcode := code_of_isDigit h
  simp only [isBlank, Bool.or_eq_false_iff, Bool.and_eq_false_iff, decide_eq_false_iff_not,
    beq_eq_false_iff_ne]
  omega

end Text

namespace Number

/-! ## Rows of digits -/

section

variable {ds : List Char}

theorem asAscii_of_isDigit {c : Char} (h : Text.isDigit c = true) : asAscii c = c := by
  have hvalue : Text.decimal? c = some (Text.digitValue c) := Text.decimal?_of_isDigit h
  have hcode : '0'.toNat + Text.digitValue c = c.toNat := (Text.code_eq_of_isDigit h).symm
  simp only [asAscii, hvalue, hcode, Char.ofNat_toNat]

theorem ungroup?_of_digits (hne : ds ≠ []) (h : ∀ c ∈ ds, Text.isDigit c = true) :
    ungroup? ds = some ds := by
  induction ds with
  | nil => exact absurd rfl hne
  | cons c rest ih =>
      have hc : Text.isDigit c = true := h c (by simp)
      have hrest : ∀ d ∈ rest, Text.isDigit d = true := fun d hd => h d (by simp [hd])
      cases rest with
      | nil => simp [ungroup?, hc]
      | cons d more =>
          have hd : d ≠ '_' := Text.ne_of_isDigit (hrest d (by simp)) (by decide)
          have hmore : ungroup? (d :: more) = some (d :: more) := ih (by simp) hrest
          rw [ungroup?]
          · simp [hc, hmore]
          · simp
          · intro e r heq
            exact hd (List.cons.inj heq).1

theorem splitSign_of_digits (h : ∀ c ∈ ds, Text.isDigit c = true) : splitSign ds = (false, ds) := by
  cases ds with
  | nil => rfl
  | cons c rest =>
      have hc : Text.isDigit c = true := h c (by simp)
      have hminus : c ≠ '-' := Text.ne_of_isDigit hc (by decide)
      have hplus : c ≠ '+' := Text.ne_of_isDigit hc (by decide)
      unfold splitSign
      split <;> simp_all

theorem readInteger_of_digits (hne : ds ≠ []) (h : ∀ c ∈ ds, Text.isDigit c = true)
    (hlength : ds.length ≤ maxDigits) :
    readInteger (String.ofList ds) = .ok (Text.digitsValue ds : Int) := by
  have htrim : Text.trimBy Text.isBlank ds = ds :=
    Text.trimBy_eq_self
      (fun c hc => Text.isBlank_of_isDigit (h c (List.mem_of_mem_head? hc)))
      (fun c hc => Text.isBlank_of_isDigit (h c (List.mem_of_mem_getLast? hc)))
  have hascii : ds.map asAscii = ds := by
    calc ds.map asAscii = ds.map id := List.map_congr_left fun c hc => asAscii_of_isDigit (h c hc)
      _ = ds := List.map_id ds
  simp only [readInteger, String.toList_ofList, htrim, hascii, splitSign_of_digits h,
    ungroup?_of_digits hne h, if_neg (Nat.not_lt.2 hlength)]
  rfl

end

theorem readInteger_digits {n : Nat} (h : n < 10 ^ maxDigits) :
    readInteger (String.ofList (Text.digits n)) = .ok (n : Int) := by
  have hlength : (Text.digits n).length ≤ maxDigits :=
    (Text.length_digits_le_iff (by decide)).2 h
  have hread := readInteger_of_digits (Text.digits_ne_nil n)
    (fun _ => Text.isDigit_of_mem_digits) hlength
  rwa [Text.digitsValue_digits] at hread

end Number
end TenderDesk
