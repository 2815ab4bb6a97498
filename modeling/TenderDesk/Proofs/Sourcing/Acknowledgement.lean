import TenderDesk.Proofs.Sourcing.Export
import TenderDesk.Proofs.Sourcing.Receipt

/-!
# Acknowledgement — which replies grant a change, and the return codes of all others

* `Reply.Acknowledges reply receipt`: a successful answer holds an object that reads as a receipt
  with code 0 and `OK`.
* `Reply.Refuses reply code` lists what else can come back, each with the return code that it is
  reported with, but for replies that escape.
* Answers are taken apart more or less strictly. Whatever reads a value as a receipt reports the
  same (`Receipt.Reads`), so the classification is one for all changes
  (`Receipt.Reads.ok_iff_acknowledges`, `Receipt.Reads.error_iff_refuses` and
  `Receipt.Reads.internal_iff_escapes`).
-/

namespace TenderDesk
namespace Sourcing

/-! ## Values -/

namespace Receipt

variable {name action : String} {j : Json} {receipt : Receipt} {fault : PlatformFault}

/-- The return code in a value that reads as a receipt. -/
def codeIn (j : Json) : Option Int :=
  match codec.read j with
  | .ok receipt => receipt.code.get?
  | .error _ => none

theorem isSuccess_iff :
    receipt.isSuccess = true ↔
      receipt.code.get? = some 0 ∧ receipt.message.get? = some "OK" := by
  simp [isSuccess]

/-- Only an object reads as a receipt. -/
theorem exists_members_of_read (h : codec.read j = .ok receipt) : ∃ members, j = .obj members := by
  cases j with
  | obj members => exact ⟨members, rfl⟩
  | _ => cases h

theorem ofJson?_eq_some_iff :
    ofJson? j = some receipt ↔ codec.read j = .ok receipt ∧ receipt.isSuccess = true := by
  unfold ofJson?
  rcases codec.read j with faults | read
  · constructor
    · intro h
      cases h
    · rintro ⟨h, -⟩
      cases h
  · by_cases hread : read.isSuccess = true
    · simp only [hread, if_true, Option.some.injEq]
      constructor
      · rintro rfl
        exact ⟨rfl, hread⟩
      · rintro ⟨h, -⟩
        cases h
        rfl
    · simp only [hread]
      constructor
      · intro h
        cases h
      · rintro ⟨h, hsuccess⟩
        cases h
        exact absurd hsuccess hread

theorem ofJson?_eq_none (h : codec.read j = .ok receipt)
    (hreceipt : ¬(receipt.code.get? = some 0 ∧ receipt.message.get? = some "OK")) :
    ofJson? j = none := by
  cases hsome : ofJson? j with
  | none => rfl
  | some granted =>
      obtain ⟨hgranted, hsuccess⟩ := ofJson?_eq_some_iff.1 hsome
      rw [h] at hgranted
      cases hgranted
      exact absurd (isSuccess_iff.1 hsuccess) hreceipt

theorem codeIn_of_read (h : codec.read j = .ok receipt) : codeIn j = receipt.code.get? := by
  unfold codeIn
  rw [h]
  rfl

/-- What counts as nothing carries no code, and neither does the empty object in its place. -/
theorem codeIn_of_isEmpty (h : j.isEmpty = true) : codeIn j = none := by
  cases j with
  | obj members =>
      cases members with
      | nil => rfl
      | cons member members => simp [Json.isEmpty] at h
  | _ => rfl

/-- A way to take an answer apart that grants no more than a value says, and reports the code that
stands in it. -/
structure Reads (read : Json → Except PlatformFault Receipt) : Prop where
  ok_iff : ∀ {j receipt}, read j = .ok receipt ↔ ofJson? j = some receipt
  code : ∀ {j fault}, read j = .error fault → fault.code = codeIn j

theorem code_of_ofAnswer (h : ofAnswer name action j = .error fault) : fault.code = codeIn j := by
  unfold ofAnswer accept at h
  unfold codeIn
  cases hread : codec.read j with
  | error faults =>
      rw [hread] at h
      cases h
      rfl
  | ok receipt =>
      rw [hread] at h
      by_cases hreceipt : receipt.isSuccess = true
      · simp [hreceipt] at h
      · simp only [hreceipt] at h
        cases h
        rfl

theorem reads_ofFullAnswer (name action : String) : Reads (ofFullAnswer name action) where
  ok_iff := ofFullAnswer_eq_ok_iff
  code := by
    intro j fault h
    unfold ofFullAnswer at h
    split at h
    · cases h
      rfl
    · exact code_of_ofAnswer h

theorem reads_ofLooseAnswer (action : String) : Reads (ofLooseAnswer action) where
  ok_iff := ofLooseAnswer_eq_ok_iff
  code := by
    intro j fault h
    have hcode : fault.code = codeIn (if j.isEmpty then .obj [] else j) := code_of_ofAnswer h
    by_cases hempty : j.isEmpty = true
    · have hnone : codeIn (.obj []) = none := rfl
      simpa [hempty, hnone, codeIn_of_isEmpty hempty] using hcode
    · simpa [hempty] using hcode

end Receipt

/-! ## Replies -/

namespace Reply

variable {reply : Reply} {endpoint : String} {code : Option Int}

/-- The platform says that it made a change. -/
def Acknowledges (reply : Reply) (receipt : Receipt) : Prop :=
  ∃ members, reply.Holds (.obj members) ∧ Receipt.codec.read (.obj members) = .ok receipt ∧
    receipt.code.get? = some 0 ∧ receipt.message.get? = some "OK"

/-- The platform does not say so, and this is the return code to report. -/
inductive Refuses : Reply → Option Int → Prop
  | unread {reply : Reply} {code : Option Int} (h : reply.Fails code) : Refuses reply code
  | empty {reply : Reply} {j : Json} (hholds : reply.Holds j) (hempty : j.isEmpty = true) :
      Refuses reply none
  | malformed {reply : Reply} {j : Json} {faults : List Schema.Fault} (hholds : reply.Holds j)
      (hread : Receipt.codec.read j = .error faults) : Refuses reply none
  | rejected {reply : Reply} {j : Json} {receipt : Receipt} (hholds : reply.Holds j)
      (hread : Receipt.codec.read j = .ok receipt)
      (hreceipt : ¬(receipt.code.get? = some 0 ∧ receipt.message.get? = some "OK")) :
      Refuses reply receipt.code.get?

theorem refuses_of_holds {j : Json} (hholds : reply.Holds j) (hnone : Receipt.ofJson? j = none) :
    reply.Refuses (Receipt.codeIn j) := by
  unfold Receipt.codeIn
  cases hread : Receipt.codec.read j with
  | error faults => exact .malformed hholds hread
  | ok receipt =>
      refine .rejected hholds hread fun hreceipt => ?_
      have hsome : Receipt.ofJson? j = some receipt :=
        Receipt.ofJson?_eq_some_iff.2 ⟨hread, Receipt.isSuccess_iff.2 hreceipt⟩
      rw [hnone] at hsome
      cases hsome

/-- A refusal either lets no value be read, or holds one without a receipt of success. -/
theorem Refuses.fails_or_holds (h : reply.Refuses code) :
    reply.Fails code ∨
      ∃ j, reply.Holds j ∧ Receipt.ofJson? j = none ∧ Receipt.codeIn j = code := by
  cases h with
  | unread h => exact .inl h
  | empty hholds hempty =>
      exact .inr ⟨_, hholds, Receipt.ofJson?_of_isEmpty hempty, Receipt.codeIn_of_isEmpty hempty⟩
  | malformed hholds hread =>
      refine .inr ⟨_, hholds, ?_, ?_⟩
      · simp only [Receipt.ofJson?, hread]
      · simp only [Receipt.codeIn, hread]
  | rejected hholds hread hreceipt =>
      exact .inr ⟨_, hholds, Receipt.ofJson?_eq_none hread hreceipt, Receipt.codeIn_of_read hread⟩

theorem told_of_holds {read : Json → Except PlatformFault Receipt} {j : Json}
    (h : reply.Holds j) : reply.told read endpoint = (read j).mapError Failure.platform := by
  simp only [told, h.json]
  rfl

theorem told_of_json_error {read : Json → Except PlatformFault Receipt} {failure : Failure}
    (h : reply.json endpoint = .error failure) : reply.told read endpoint = .error failure := by
  simp only [told, h]
  rfl

end Reply

/-! ## Answers to changes -/

namespace Receipt.Reads

variable {read : Json → Except PlatformFault Receipt} {reply : Reply} {receipt : Receipt}
  {code : Option Int}

theorem ok_iff_acknowledges (hread : Reads read) (endpoint : String) :
    reply.told read endpoint = .ok receipt ↔ reply.Acknowledges receipt := by
  constructor
  · intro h
    cases hj : reply.json endpoint with
    | error failure =>
        rw [Reply.told_of_json_error hj] at h
        cases h
    | ok j =>
        have hholds : reply.Holds j := Reply.json_eq_ok_iff.1 hj
        rw [Reply.told_of_holds hholds] at h
        cases hgranted : read j with
        | error fault =>
            rw [hgranted] at h
            cases h
        | ok receipt' =>
            rw [hgranted] at h
            cases h
            obtain ⟨hcodec, hsuccess⟩ := ofJson?_eq_some_iff.1 (hread.ok_iff.1 hgranted)
            obtain ⟨members, rfl⟩ := exists_members_of_read hcodec
            exact ⟨members, hholds, hcodec, isSuccess_iff.1 hsuccess⟩
  · rintro ⟨members, hholds, hcodec, hsuccess⟩
    rw [Reply.told_of_holds hholds,
      hread.ok_iff.2 (ofJson?_eq_some_iff.2 ⟨hcodec, isSuccess_iff.2 hsuccess⟩)]
    rfl

/-- What is told of a reply that does not acknowledge a change. -/
theorem told_eq_error (hread : Reads read) {endpoint : String} {failure : Failure}
    (h : reply.told read endpoint = .error failure) :
    (∃ fault, failure = .platform fault ∧ reply.Refuses fault.code) ∨ reply.Escapes failure := by
  cases hj : reply.json endpoint with
  | error failure' =>
      rw [Reply.told_of_json_error hj] at h
      cases h
      rcases Reply.json_eq_error hj with ⟨fault, rfl, hfails⟩ | hescapes
      · exact .inl ⟨fault, rfl, .unread hfails⟩
      · exact .inr hescapes
  | ok j =>
      have hholds : reply.Holds j := Reply.json_eq_ok_iff.1 hj
      rw [Reply.told_of_holds hholds] at h
      cases hrefused : read j with
      | ok receipt =>
          rw [hrefused] at h
          cases h
      | error fault =>
          rw [hrefused] at h
          cases h
          -- Had the value a receipt, `read` would have found it.
          have hnone : ofJson? j = none := by
            cases hsome : ofJson? j with
            | none => rfl
            | some receipt =>
                rw [hread.ok_iff.2 hsome] at hrefused
                cases hrefused
          refine .inl ⟨fault, rfl, ?_⟩
          rw [hread.code hrefused]
          exact Reply.refuses_of_holds hholds hnone

theorem error_iff_refuses (hread : Reads read) (endpoint : String) :
    (∃ fault, reply.told read endpoint = .error (.platform fault) ∧ fault.code = code) ↔
      reply.Refuses code := by
  constructor
  · rintro ⟨fault, h, rfl⟩
    rcases hread.told_eq_error h with ⟨fault', hfault, hrefuses⟩ | hescapes
    · cases hfault
      exact hrefuses
    · -- A failure of the platform is of another category than one that escapes.
      cases hescapes.category
  · intro h
    rcases h.fails_or_holds with hfails | ⟨j, hholds, hnone, hcode⟩
    · obtain ⟨fault, hfault, hcode⟩ := hfails.json endpoint
      exact ⟨fault, Reply.told_of_json_error hfault, hcode⟩
    · rw [Reply.told_of_holds hholds]
      cases hresult : read j with
      | ok receipt =>
          rw [hread.ok_iff.1 hresult] at hnone
          cases hnone
      | error fault => exact ⟨fault, rfl, (hread.code hresult).trans hcode⟩

/-- Only a reply that escapes is told as something internal. -/
theorem internal_iff_escapes (hread : Reads read) (endpoint : String) {failure : Failure} :
    reply.told read endpoint = .error failure ∧ failure.category = .internal ↔
      reply.Escapes failure := by
  constructor
  · rintro ⟨h, hcategory⟩
    rcases hread.told_eq_error h with ⟨fault, rfl, -⟩ | hescapes
    · cases hcategory
    · exact hescapes
  · intro h
    exact ⟨Reply.told_of_json_error h.json, h.category⟩

end Receipt.Reads
end Sourcing
end TenderDesk
