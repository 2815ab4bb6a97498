import TenderDesk.Proofs.Sourcing.Export

/-!
# Receipt — which replies say that a change was made

* `Reply.receipt?` is the receipt in a reply that says so, and nothing for every other reply.
* However leniently an answer is taken apart, what counts as made is the same: the requests differ
  in the faults that they report only.
-/

namespace TenderDesk
namespace Sourcing

open Schema

/-- The receipt of a change that was made, as a JSON value gives it. -/
def Receipt.ofJson? (j : Json) : Option Receipt :=
  match Receipt.codec.read j with
  | .ok r => if r.isSuccess then some r else none
  | .error _ => none

/-- The receipt by which a reply says that a change was made. -/
def Reply.receipt? (reply : Reply) : Option Receipt :=
  match reply.json "" with
  | .ok j => Receipt.ofJson? j
  | .error _ => none

/-- What a reply to a change comes to, where its value is taken apart by `read`. -/
def Reply.told (read : Json → Except PlatformFault Receipt) (endpoint : String) (reply : Reply) :
    Except Failure Receipt :=
  (reply.json endpoint).bind fun j => (read j).mapError Failure.platform

/-- The reply that carries a receipt. -/
def Reply.ofReceipt (receipt : Receipt) : Reply :=
  .ofJson (Receipt.codec.write receipt)

/-- Requests that ask for a change. -/
def Request.isWriting : Request → Bool
  | .write _ | .upload _ _ _ | .publish _ => true
  | .showRecord _ | .showFile _ => false

/-! ## Answers -/

namespace Receipt

theorem ofAnswer_eq_ok_iff {name action : String} {j : Json} {r : Receipt} :
    ofAnswer name action j = .ok r ↔ ofJson? j = some r := by
  unfold ofAnswer ofJson? accept
  rcases codec.read j with faults | a
  · simp
  · by_cases ha : a.isSuccess <;> simp [ha]

/-- Null holds no receipt, so it does not matter that it is refused beforehand. -/
theorem ofFullAnswer_eq_ok_iff {name action : String} {j : Json} {r : Receipt} :
    ofFullAnswer name action j = .ok r ↔ ofJson? j = some r := by
  unfold ofFullAnswer
  split
  · have : ofJson? Json.null = none := rfl
    simp [this]
  · exact ofAnswer_eq_ok_iff

/-- An empty value holds no receipt, and neither does the empty record that it counts as. -/
theorem ofJson?_of_isEmpty {j : Json} (h : j.isEmpty) : ofJson? j = none := by
  cases j with
  | obj ms =>
      cases ms with
      | nil => rfl
      | cons m ms => simp [Json.isEmpty] at h
  | _ => rfl

theorem ofLooseAnswer_eq_ok_iff {action : String} {j : Json} {r : Receipt} :
    ofLooseAnswer action j = .ok r ↔ ofJson? j = some r := by
  unfold ofLooseAnswer
  rw [ofAnswer_eq_ok_iff]
  by_cases h : j.isEmpty
  · have : ofJson? (.obj []) = none := rfl
    simp [h, this, ofJson?_of_isEmpty h]
  · simp [h]

end Receipt

/-! ## Replies -/

namespace Reply

/-- The name of the endpoint shows in faults only. -/
theorem receipt?_of_json_ok {reply : Reply} {endpoint : String} {j : Json}
    (h : reply.json endpoint = .ok j) : reply.receipt? = Receipt.ofJson? j := by
  unfold receipt?
  rw [(json_eq_ok_iff.1 h).json]

theorem receipt?_of_json_error {reply : Reply} {endpoint : String} {failure : Failure}
    (h : reply.json endpoint = .error failure) : reply.receipt? = none := by
  unfold receipt?
  -- A value for one endpoint would be a value for this one.
  cases hj : reply.json "" with
  | error _ => rfl
  | ok j =>
      have hok : reply.json endpoint = .ok j := (json_eq_ok_iff.1 hj).json
      rw [h] at hok
      cases hok

/-- A change is told as made exactly when the reply carries its receipt. -/
theorem told_eq_ok_iff {read : Json → Except PlatformFault Receipt}
    (hread : ∀ j receipt, read j = .ok receipt ↔ Receipt.ofJson? j = some receipt)
    {reply : Reply} {endpoint : String} {receipt : Receipt} :
    reply.told read endpoint = .ok receipt ↔ reply.receipt? = some receipt := by
  unfold told
  cases hj : reply.json endpoint with
  | error failure =>
      rw [receipt?_of_json_error hj]
      exact ⟨nofun, nofun⟩
  | ok j =>
      rw [receipt?_of_json_ok hj, ← hread]
      show (read j).mapError Failure.platform = .ok receipt ↔ read j = .ok receipt
      cases read j with
      | error fault => exact ⟨nofun, nofun⟩
      | ok told => exact ⟨fun h => by cases h; rfl, fun h => by cases h; rfl⟩

/-- What a reply is refused for is that it carries no receipt. -/
theorem receipt?_of_told_error {read : Json → Except PlatformFault Receipt}
    (hread : ∀ j receipt, read j = .ok receipt ↔ Receipt.ofJson? j = some receipt)
    {reply : Reply} {endpoint : String} {failure : Failure}
    (h : reply.told read endpoint = .error failure) : reply.receipt? = none := by
  refine Option.eq_none_iff_forall_ne_some.2 fun receipt hsome => ?_
  rw [(told_eq_ok_iff hread).2 hsome] at h
  cases h

end Reply
end Sourcing
end TenderDesk
