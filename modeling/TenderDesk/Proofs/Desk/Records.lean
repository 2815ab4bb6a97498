import TenderDesk.Desk.Records
import TenderDesk.Proofs.Desk.Triple
import TenderDesk.Proofs.Sourcing.Receipt

/-!
# Records — what requests to the platform tell and leave

* `Surroundings.writes` lists, for questions put one after the other, the requests that asked for a
  change and were told that it was made, each with its receipt.
* Each operation on records sends one request at most. One that writes succeeds exactly when its
  request is in that list afterwards; one that reads leaves the list alone.
-/

namespace TenderDesk
namespace Desk

open Sourcing

variable {ω α : Type} {w : Surroundings ω} {σ : Session} {I : Trail ω}

/-- A question among some and one more is the last one, or it is among the others. -/
theorem concat_eq_append_cons {qs before after : List Question} {p q : Question}
    (h : qs ++ [p] = before ++ q :: after) :
    qs = before ∧ p = q ∨ ∃ rest, qs = before ++ q :: rest := by
  rcases List.eq_nil_or_concat after with rfl | ⟨rest, last, rfl⟩
  · obtain ⟨rfl, hlast⟩ := List.append_inj' h rfl
    exact .inl ⟨rfl, List.singleton_inj.1 hlast⟩
  · have hsame : qs ++ [p] = (before ++ q :: rest) ++ [last] := by simpa using h
    exact .inr ⟨rest, (List.append_inj' hsame rfl).1⟩

/-! ## Changes that were made -/

/-- A request for a change that was made, with its receipt. -/
abbrev Write : Type :=
  Request × Receipt

/-- The change that a question makes, if it makes one. -/
def Surroundings.writeOf? (w : Surroundings ω) (m : ω) : Question → Option Write
  | .exchange request =>
      if request.isWriting then
        (w (.exchange request) m).1.receipt?.map fun receipt => (request, receipt)
      else none
  | _ => none

/-- The changes that questions make that are put one after the other. -/
def Surroundings.writes (w : Surroundings ω) : ω → List Question → List Write
  | _, [] => []
  | m, q :: qs => (w.writeOf? m q).toList ++ w.writes (w q m).2 qs

/-- What the surroundings remember after some questions. -/
def Surroundings.after (w : Surroundings ω) (m : ω) (qs : List Question) : ω :=
  qs.foldl (fun m q => (w q m).2) m

namespace Surroundings

@[simp] theorem after_concat (w : Surroundings ω) (m : ω) (qs : List Question) (q : Question) :
    w.after m (qs ++ [q]) = (w q (w.after m qs)).2 := by
  simp [after]

@[simp] theorem writes_concat (w : Surroundings ω) (m : ω) (qs : List Question) (q : Question) :
    w.writes m (qs ++ [q]) = w.writes m qs ++ (w.writeOf? (w.after m qs) q).toList := by
  induction qs generalizing m with
  | nil => simp [writes, after]
  | cons p qs ih => simp [writes, after, ih (w p m).2]

end Surroundings

/-- The questions since `m` made the changes `ws`, and no other. -/
def Wrote (w : Surroundings ω) (m : ω) (ws : List Write) : Trail ω :=
  fun m' asked => m' = w.after m asked ∧ w.writes m asked = ws

/-- Questions that never make a change. -/
def Question.IsHarmless : Question → Prop
  | .exchange request => request.isWriting = false
  | _ => True

theorem Wrote.keeps_harmless (m : ω) (ws : List Write) :
    w.Keeps Question.IsHarmless (Wrote w m ws) := by
  rintro q hq _ asked ⟨rfl, h⟩
  have hnone : w.writeOf? (w.after m asked) q = none := by
    cases q with
    | exchange request =>
        have hr : request.isWriting = false := hq
        simp [Surroundings.writeOf?, hr]
    | _ => rfl
  exact ⟨by simp, by simp [h, hnone]⟩

theorem Surroundings.Keeps.mono {S T : Question → Prop} (h : w.Keeps T I)
    (hST : ∀ q, S q → T q) : w.Keeps S I :=
  fun q hq => h q (hST q hq)

theorem Question.isHarmless_of_isLookup {q : Question} (h : q.IsLookup) : q.IsHarmless := by
  cases q <;> trivial

theorem Question.isHarmless_of_isService {q : Question} (h : q.IsService) : q.IsHarmless := by
  cases q <;> trivial

/-- Questions that send nothing, or a request of a sort. -/
def Question.Asks (P : Request → Prop) : Question → Prop
  | .exchange request => P request
  | _ => True

theorem Question.asks_of_isLookup {P : Request → Prop} {q : Question} (h : q.IsLookup) :
    q.Asks P := by
  cases q <;> first | exact trivial | exact absurd h id

theorem Question.asks_of_isService {P : Request → Prop} {q : Question} (h : q.IsService) :
    q.Asks P := by
  cases q <;> first | exact trivial | exact absurd h id

/-- Requests that only show something are harmless. -/
theorem Surroundings.Keeps.asks (h : w.Keeps Question.IsHarmless I) :
    w.Keeps (Question.Asks fun request => request.isWriting = false) I :=
  h.mono fun q hq => by cases q <;> exact hq

/-! ## Requests -/

/-- What a request for a change does to what is known, whether the change is made or not. -/
structure Sends (w : Surroundings ω) (request : Request) (I : Trail ω) (J : Receipt → Trail ω) :
    Prop where
  accepted : ∀ m asked receipt, I m asked →
    (w (.exchange request) m).1.receipt? = some receipt →
      J receipt (w (.exchange request) m).2 (asked ++ [.exchange request])
  refused : ∀ m asked, I m asked → (w (.exchange request) m).1.receipt? = none →
    I (w (.exchange request) m).2 (asked ++ [.exchange request])

theorem Sends.of_keeps {S : Question → Prop} {request : Request} (hI : w.Keeps S I)
    (hS : S (.exchange request)) : Sends w request I fun _ => I where
  accepted := fun m asked _ h _ => hI _ hS m asked h
  refused := fun m asked h _ => hI _ hS m asked h

theorem Sends.weaken {request : Request} {J J' : Receipt → Trail ω} (h : Sends w request I J)
    (hJ : ∀ {receipt} m asked, J receipt m asked → J' receipt m asked) :
    Sends w request I J' where
  accepted := fun m asked receipt hm hreceipt => hJ _ _ (h.accepted m asked receipt hm hreceipt)
  refused := h.refused

theorem Wrote.sends {request : Request} (hr : request.isWriting) (m : ω) (ws : List Write) :
    Sends w request (Wrote w m ws) fun receipt => Wrote w m (ws ++ [(request, receipt)]) where
  accepted := by
    rintro _ asked receipt ⟨rfl, h⟩ hreceipt
    exact ⟨by simp, by simp [h, Surroundings.writeOf?, hr, hreceipt]⟩
  refused := by
    rintro _ asked ⟨rfl, h⟩ hnone
    exact ⟨by simp, by simp [h, Surroundings.writeOf?, hr, hnone]⟩

theorem exchange_triple {J : Reply → Trail ω} (p : Platform) (request : Request)
    (h : ∀ m asked, I m asked → J (w (.exchange request) m).1 (w (.exchange request) m).2
      (asked ++ [.exchange request])) :
    Triple w (Run.At σ I) (exchange p request) (fun reply => Run.At σ (J reply))
      (fun _ => Run.At σ I) := by
  unfold exchange
  apply Triple.bind Triple.ofExcept_keeping
  intro _
  · exact Triple.ask fun r hr => ⟨hr.1, h _ _ hr.2⟩

theorem ofPlatform_eq (e : Except PlatformFault α) :
    (ofPlatform e : Action ω α) = Action.ofExcept (e.mapError Failure.platform) := by
  cases e <;> rfl

theorem json_told (read : Json → Except PlatformFault Receipt) (endpoint : String) (reply : Reply) :
    (Action.ofExcept (reply.json endpoint) >>= fun answer => ofPlatform (read answer) :
        Action ω Receipt) =
      Action.ofExcept (reply.told read endpoint) := by
  unfold Reply.told
  simp only [ofPlatform_eq]
  cases reply.json endpoint <;> rfl

/-- A request for a change, and an answer that is taken apart in any way that accepts the receipts
of changes that were made, and no other. -/
theorem change_triple {J : Receipt → Trail ω} {p : Platform} {request : Request}
    {read : Json → Except PlatformFault Receipt} (hJ : Sends w request I J)
    (hread : ∀ j receipt, read j = .ok receipt ↔ Receipt.ofJson? j = some receipt) :
    Triple w (Run.At σ I) (exchangeJson p request >>= fun answer => ofPlatform (read answer))
      (fun receipt => Run.At σ (J receipt)) (fun _ => Run.At σ I) := by
  unfold exchangeJson
  rw [bind_assoc]
  -- The reply came, but it is not read yet: both ways in which it may be read are kept open.
  let K : Reply → Trail ω := fun reply m asked =>
    (∀ receipt, reply.receipt? = some receipt → J receipt m asked) ∧
      (reply.receipt? = none → I m asked)
  have sent : Triple w (Run.At σ I) (exchange p request) (fun reply => Run.At σ (K reply))
      (fun _ => Run.At σ I) := by
    refine exchange_triple p request fun m asked h => ⟨?_, ?_⟩
    · exact fun receipt hreceipt => hJ.accepted m asked receipt h hreceipt
    · exact fun hnone => hJ.refused m asked h hnone
  apply Triple.bind sent
  intro reply
  rw [json_told]
  cases hanswer : reply.told read request.endpoint with
  | error failure =>
      have hnone : reply.receipt? = none := Reply.receipt?_of_told_error hread hanswer
      rw [Action.ofExcept_error]
      exact Triple.fail fun r h => ⟨h.1, h.2.2 hnone⟩
  | ok receipt =>
      have hsome : reply.receipt? = some receipt := (Reply.told_eq_ok_iff hread).1 hanswer
      rw [Action.ofExcept_ok]
      exact Triple.pure fun r h => ⟨h.1, h.2.1 receipt hsome⟩

/-! ## Operations on records -/

theorem writeRecord_triple {J : Receipt → Trail ω} {p : Platform} {command : Command} {rfx : Rfx}
    (hJ : Sends w (.write ⟨command, rfx⟩) I J) :
    Triple w (Run.At σ I) (writeRecord p command rfx) (fun receipt => Run.At σ (J receipt))
      (fun _ => Run.At σ I) :=
  change_triple hJ fun _ _ => Receipt.ofFullAnswer_eq_ok_iff

theorem uploadFile_triple {J : Receipt → Trail ω} {p : Platform} {fileName : String}
    {data : List UInt8} {change : Change} (hJ : Sends w (.upload fileName data change) I J) :
    Triple w (Run.At σ I) (uploadFile p fileName data change) (fun receipt => Run.At σ (J receipt))
      (fun _ => Run.At σ I) :=
  change_triple hJ fun _ _ => Receipt.ofLooseAnswer_eq_ok_iff

theorem publishRecord_triple {J : Receipt → Trail ω} {p : Platform} {order : PublishOrder}
    (hJ : Sends w (.publish order) I J) :
    Triple w (Run.At σ I) (publishRecord p order) (fun receipt => Run.At σ (J receipt))
      (fun _ => Run.At σ I) :=
  change_triple hJ fun _ _ => Receipt.ofLooseAnswer_eq_ok_iff

theorem fetchRecord_triple {S : Question → Prop} {p : Platform} {id : String} (hI : w.Keeps S I)
    (hS : S (.exchange (.showRecord id))) :
    Triple w (Run.At σ I) (fetchRecord p id) (fun _ => Run.At σ I) (fun _ => Run.At σ I) := by
  unfold fetchRecord exchangeJson
  rw [bind_assoc]
  apply Triple.bind (exchange_triple (J := fun _ => I) p _ fun m asked h => hI _ hS m asked h)
  intro reply
  apply Triple.bind Triple.ofExcept_keeping
  intro answer
  exact Triple.ofExcept_keeping

theorem fetchFile_triple {S : Question → Prop} {p : Platform} {key : Document.Key}
    (hI : w.Keeps S I) (hS : S (.exchange (.showFile key))) :
    Triple w (Run.At σ I) (fetchFile p key) (fun _ => Run.At σ I) (fun _ => Run.At σ I) := by
  unfold fetchFile
  apply Triple.bind (exchange_triple (J := fun _ => I) p _ fun m asked h => hI _ hS m asked h)
  intro reply
  exact Triple.ofExcept_keeping

end Desk
end TenderDesk
