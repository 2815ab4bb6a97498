import TenderDesk.Proofs.Desk.Showing
import TenderDesk.Proofs.Sourcing.Acknowledgement

/-!
# Writing — what the platform grants, and what a request for a change comes to

* `EndsAsReplied w r request end_` says that a request was sent once and nothing else was asked,
  that the receipt is told exactly when the reply acknowledges the change, and that every other
  reply ends as the platform's fault, with the return code that `Reply.Refuses` gives it, unless it
  escapes.
* `writes_once`: so do all operations that write. They differ in how much they forgive an answer,
  and in the wording of faults.
-/

namespace TenderDesk
namespace Desk

open Sourcing

variable {ω : Type} {w : Surroundings ω} {p : Platform} {r : Run ω}

/-- A request was sent once, and the run ended as the reply to it says. -/
structure EndsAsReplied (w : Surroundings ω) (r : Run ω) (request : Request)
    (end_ : Except Failure Receipt × Run ω) : Prop where
  once : end_.2 = r.asking w (.exchange request)
  ok_iff : ∀ receipt, end_.1 = .ok receipt ↔
    (w (.exchange request) r.memory).1.Acknowledges receipt
  error_iff : ∀ code, (∃ fault, end_.1 = .error (.platform fault) ∧ fault.code = code) ↔
    (w (.exchange request) r.memory).1.Refuses code
  internal_iff : ∀ failure, end_.1 = .error failure ∧ failure.category = .internal ↔
    (w (.exchange request) r.memory).1.Escapes failure
  platform_or_internal : ∀ failure, end_.1 = .error failure →
    (∃ fault, failure = .platform fault) ∨ failure.category = .internal

/-- However an answer is read as a receipt, what comes of a request is the same. -/
theorem endsAsReplied_of_reads {request : Request} {read : Json → Except PlatformFault Receipt}
    (hread : Receipt.Reads read) {url : String} (hurl : urlOf p request.endpoint = .ok url) :
    EndsAsReplied w r request
      ((exchangeJson p request >>= fun answer => ofPlatform (read answer)) w r) := by
  have hend := change_course (w := w) (p := p) (r := r) request read
  rw [hurl] at hend
  dsimp only at hend
  rw [hend]
  cases hanswer : (w (.exchange request) r.memory).1.told read request.endpoint with
  | ok receipt =>
      refine ⟨rfl, fun receipt' => ?_, fun code => ?_, fun failure => ?_,
        fun failure h => by cases h⟩
      · rw [← hread.ok_iff_acknowledges request.endpoint, hanswer]
      · rw [← hread.error_iff_refuses request.endpoint, hanswer]
      · rw [← hread.internal_iff_escapes request.endpoint, hanswer]
  | error failure =>
      refine ⟨rfl, fun receipt => ?_, fun code => ?_, fun failure' => ?_, fun failure' h => ?_⟩
      · rw [← hread.ok_iff_acknowledges request.endpoint, hanswer]
      · rw [← hread.error_iff_refuses request.endpoint, hanswer]
      · rw [← hread.internal_iff_escapes request.endpoint, hanswer]
      · cases h
        rcases hread.told_eq_error hanswer with ⟨fault, hfault, -⟩ | hescapes
        · exact .inl ⟨fault, hfault⟩
        · exact .inr hescapes.category

/-- Where the addresses are known, every change is asked for once. It is made exactly where the
reply acknowledges it. Otherwise it fails as the platform's fault, unless the reply escapes. -/
theorem writes_once {url url' : String} (hrecords : urlOf p "createRfx" = .ok url)
    (horders : urlOf p "publishRfx" = .ok url') (w : Surroundings ω) (r : Run ω) :
    (∀ (command : Command) (rfx : Rfx),
      EndsAsReplied w r (.write ⟨command, rfx⟩) (writeRecord p command rfx w r)) ∧
    (∀ (fileName : String) (data : List UInt8) (change : Change),
      EndsAsReplied w r (.upload fileName data change) (uploadFile p fileName data change w r)) ∧
    ∀ order : PublishOrder, EndsAsReplied w r (.publish order) (publishRecord p order w r) := by
  refine ⟨fun command rfx => ?_, fun fileName data change => ?_, fun order => ?_⟩
  · exact endsAsReplied_of_reads (Receipt.reads_ofFullAnswer _ _) hrecords
  · exact endsAsReplied_of_reads (Receipt.reads_ofLooseAnswer _) hrecords
  · exact endsAsReplied_of_reads (Receipt.reads_ofLooseAnswer _) horders

/-- One reply grants a change of a record, and an answer of status 503 refuses to publish one. -/
theorem writes_once_bench :
    let receipt : Receipt := { code := .set 0, message := .set "OK", id := .set "rfq_1" }
    let refused : Run Scene := .start {} (replyScene (.answered 503 none (.ofText "")))
    let order : PublishOrder := publishOrder "rfq_1" none default "user"
    urlOf benchSettings.platform "createRfx" = .ok "http://remote.test/create" ∧
      urlOf benchSettings.platform "publishRfx" = .ok "http://remote.test/publish" ∧
      (Reply.ofReceipt receipt).Acknowledges receipt ∧
      ∃ fault, (publishRecord benchSettings.platform order Scene.surroundings refused).1 =
        .error (.platform fault) ∧ fault.code = some 503 := by
  intro receipt refused order
  have hrecords : urlOf benchSettings.platform "createRfx" = .ok "http://remote.test/create" := by
    decide +kernel
  have horders : urlOf benchSettings.platform "publishRfx" =
      .ok "http://remote.test/publish" := by
    decide +kernel
  let granted : Run Scene := .start {} (replyScene (.ofReceipt receipt))
  have hmade : (writeRecord benchSettings.platform .createFromTemplate {} Scene.surroundings
      granted).1 = .ok receipt := by
    decide +kernel
  have hwrite := (writes_once hrecords horders Scene.surroundings granted).1 .createFromTemplate {}
  have hpublish := (writes_once hrecords horders Scene.surroundings refused).2.2 order
  refine ⟨hrecords, horders, (hwrite.ok_iff receipt).1 hmade, ?_⟩
  exact (hpublish.error_iff (some 503)).2 (.unread (.status (by decide) rfl))

/-- An answer is nested more deeply than there is room for: asking for a change fails, and not as
the platform's fault. -/
theorem depth_escapes :
    let reply : Reply := .answered 200 none { Payload.ofText "[[]]" with room := 1 }
    let end_ := writeRecord benchSettings.platform .createFromTemplate {} Scene.surroundings
      (.start {} (replyScene reply))
    end_.1 = .error (.answerTooDeep
        "maximum recursion depth exceeded while decoding a JSON array from a unicode string") ∧
      ∀ fault, end_.1 ≠ .error (.platform fault) := by
  intro reply end_
  have hend : end_.1 = .error (.answerTooDeep
      "maximum recursion depth exceeded while decoding a JSON array from a unicode string") := by
    decide +kernel
  rw [hend]
  exact ⟨rfl, nofun⟩

end Desk
end TenderDesk
