import TenderDesk.Proofs.Desk.Agreement
import TenderDesk.Proofs.Desk.Publishing
import TenderDesk.Proofs.Event.Publication

/-!
# Closing — the closing date that is checked, and the one that is sent

The check takes a date without an offset in universal time. The order to publish tells the date as
it was given.

* `Pins` is what a text needs so that it means one instant on every clock.
* `closing_pinned_iff` says of every order that is sent that its text is read as the date that was
  checked, and that it pins the instant of the check exactly when the date has an offset of its own.
-/

namespace TenderDesk
namespace Desk

open Sourcing Schema Calendar

/-- A text that means an instant on every clock: it is the text of a moment with an offset. -/
def Pins (text : String) (i : Instant) : Prop :=
  ∃ m, readMoment? text = some m ∧ m.offset ≠ none ∧ m.instant = i

theorem pins_iff {text : String} {m : Moment} (h : readMoment? text = some m) :
    Pins text m.instant ↔ m.offset ≠ none := by
  constructor
  · rintro ⟨m', hread, hoffset, -⟩
    rw [h] at hread
    cases hread
    exact hoffset
  · intro hoffset
    exact ⟨m, h, hoffset, rfl⟩

namespace Publishing

variable {ω : Type} {c : Publishing ω}

/-- What the order says of the closing date. -/
theorem publishOrder_closing (record user : String) (reference : Option String)
    (dates : Publication) :
    ∃ payload, (Request.publish (publishOrder record reference dates user)).body = .json payload ∧
      payload.get? "newClosingDate" = some (.str dates.closing.text) := by
  refine ⟨_, rfl, ?_⟩
  cases reference <;> rfl

/-- A date that passed the check is still to come. -/
theorem Ready.early {user record : String} {row : Row} (h : c.Ready user row record) :
    c.now record < c.dates.closing.instant :=
  Publication.problems_eq_nil_iff.1 h.dated .closesLater

theorem closing_pinned_iff (c : Publishing ω) (haccepted : c.dates.Accepted) {order : PublishOrder}
    (hsent : .publish order ∈ requestsOf c.visit.2.asked) :
    ∃ user row record payload, ∃ text : String, c.Ready user row record ∧
      c.now record < c.dates.closing.instant ∧
      (Request.publish order).body = .json payload ∧
      payload.get? "newClosingDate" = some (.str text) ∧
      readMoment? text = some c.dates.closing ∧
      (Pins text c.dates.closing.instant ↔ c.dates.closing.offset ≠ none) := by
  rcases c.settled with ⟨haddressed, user, row, record, hready⟩ | ⟨failure, hhindered⟩
  · rw [(visit_of_ready hready haddressed).2] at hsent
    have horder : order = publishOrder record row.reference c.dates user := by
      simpa using hsent
    obtain ⟨payload, hbody, htext⟩ := publishOrder_closing record user row.reference c.dates
    have hread : readMoment? c.dates.closing.text = some c.dates.closing :=
      readMoment?_text haccepted.plain.1
    rw [horder]
    exact ⟨user, row, record, payload, _, hready, hready.early, hbody, htext, hread,
      pins_iff hread⟩
  · exact absurd hsent ((visit_of_hindered hhindered).2.unsent order)

/-! ## One date with an offset, and one without -/

/-- A planned event that is published until a closing date. -/
def announcing (closing : Moment) : Publishing Scene where
  settings := shownSettings
  surroundings := Scene.surroundings
  saved :=
    { projects := [benchProject]
      rows := [{ id := 1, project := 1, name := "Pens", kind := "RFI", externalId := some "rfq_1"
                 naming := benchSettings.naming, createdBy := "", updatedBy := "" }] }
  memory :=
    { users := [("buyer", some "user_42")]
      now := ⟨⟨2026, 1, 15⟩, 43200000000, some 0⟩
      replies := [
        .ofJson (.obj [("dataList",
          .arr [.obj [("rfxSetting", .obj [("statusCode", .int 100)])]])]),
        .ofReceipt benchDone] }
  project := 1
  event := "ocds-b5fd17-1"
  dates := { closing }
  principal := "buyer"

/-- Noon on a clock one hour ahead is sent with the hour, and pinned. -/
theorem closing_pinned_iff_ahead :
    let c := announcing ⟨⟨2026, 2, 1⟩, 43200000000, some 3600⟩
    c.dates.Accepted ∧ ∃ order payload, ∃ text : String,
      .publish order ∈ requestsOf c.visit.2.asked ∧
      (Request.publish order).body = .json payload ∧
      payload.get? "newClosingDate" = some (.str text) ∧ Pins text c.dates.closing.instant := by
  intro c
  have haccepted : c.dates.Accepted :=
    ⟨.obj [("end_date", .str "2026-02-01 12:00+01:00")],
      Checked.toOption_eq_some_iff.1 (by decide +kernel)⟩
  have hsent : .publish (publishOrder "rfq_1" none c.dates "user_42") ∈
      requestsOf c.visit.2.asked := by
    decide +kernel
  obtain ⟨_, _, _, payload, text, -, -, hbody, htext, -, hpins⟩ :=
    closing_pinned_iff c haccepted hsent
  exact ⟨haccepted, _, payload, text, hsent, hbody, htext, hpins.2 (by decide)⟩

/-- Noon on no clock in particular was checked as noon in universal time, but the text that is sent
does not say so. -/
theorem closing_unpinned :
    let c := announcing ⟨⟨2026, 2, 1⟩, 43200000000, none⟩
    c.dates.Accepted ∧ ∃ order payload, .publish order ∈ requestsOf c.visit.2.asked ∧
      (Request.publish order).body = .json payload ∧
      payload.get? "newClosingDate" = some (.str "2026-02-01T12:00:00") ∧
      ∀ i, ¬Pins "2026-02-01T12:00:00" i := by
  intro c
  have haccepted : c.dates.Accepted :=
    ⟨.obj [("end_date", .str "2026-02-01T12:00:00")],
      Checked.toOption_eq_some_iff.1 (by decide +kernel)⟩
  refine ⟨haccepted, publishOrder "rfq_1" none c.dates "user_42", _, by decide +kernel, rfl,
    by decide +kernel, ?_⟩
  rintro i ⟨m, hread, hoffset, -⟩
  have hbare : readMoment? "2026-02-01T12:00:00" = some c.dates.closing := by decide +kernel
  rw [hbare] at hread
  cases hread
  exact hoffset rfl

end Publishing
end Desk
end TenderDesk
