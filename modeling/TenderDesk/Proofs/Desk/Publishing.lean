import TenderDesk.Proofs.Desk.Showing

/-!
# Publishing — when an event is published, and what stops it

Publishing cannot be taken back, so it is asked for last, and after everything else was looked at.

* `Publishing.Ready` collects what a publication needs, each layer on top of the one before.
* `Publishing.Hindered` tells the failure of the first layer that is missing.
* `publish_sent_iff` says that an event is published exactly when everything is ready, once, and by
  an order that tells what was found out on the way.
-/

namespace TenderDesk
namespace Desk

open Sourcing Calendar

/-- A call to publish an event, and everything that it meets. -/
structure Publishing (ω : Type) where
  settings : Settings
  surroundings : Surroundings ω
  saved : Store
  memory : ω
  project : Int
  event : String
  dates : Publication
  principal : String

namespace Publishing

variable {ω : Type}

theorem publishRecord_course {w : Surroundings ω} {p : Platform} {r : Run ω}
    (order : PublishOrder) :
    publishRecord p order w r =
      match urlOf p "publishRfx" with
      | .ok _ =>
          ((w (.exchange (.publish order)) r.memory).1.told (Receipt.ofLooseAnswer "publish")
            "publishRfx", r.asking w (.exchange (.publish order)))
      | .error failure => (.error failure, r) :=
  change_course (.publish order) _

/-! ## What the call meets -/

/-- What colleagues tell of the principal. -/
def told (c : Publishing ω) : Except Failure (Option String) :=
  (c.surroundings (.buyerUser c.principal) c.memory).1

/-- The wait for the store in which the event is looked up. -/
def wait (c : Publishing ω) : Wait ω :=
  c.surroundings.wait c.settings.attempts (c.surroundings (.buyerUser c.principal) c.memory).2

/-- What the search for the event tells. -/
def found (c : Publishing ω) : Except Failure Row :=
  c.saved.event c.settings.naming c.project c.event c.wait.answered

/-- What the request for a record comes to. -/
def shown (c : Publishing ω) (record : String) : Except Failure Snapshot :=
  match urlOf c.settings.platform "exportRfx" with
  | .ok _ =>
      Snapshot.ofReply record (c.surroundings (.exchange (.showRecord record)) c.wait.memory).1
  | .error failure => .error failure

/-- The time after the record was shown. -/
def now (c : Publishing ω) (record : String) : Instant :=
  let m := (c.surroundings (.exchange (.showRecord record)) c.wait.memory).2
  (c.surroundings .clock m).1.instant

/-- The status that a record shows, if its code has one. -/
def status? (c : Publishing ω) (snapshot : Snapshot) : Option Status :=
  lookup? c.settings.statuses (Status.codeText snapshot.statusCode?)

/-- How the call ends. -/
def visit (c : Publishing ω) : Except Failure Unit × Run ω :=
  (Call.publishEvent c.project c.event c.dates c.principal).visit c.settings c.surroundings c.saved
    c.memory

/-! ## What it needs -/

structure Known (c : Publishing ω) (user : String) : Prop where
  told : c.told = .ok (some user)
  named : user ≠ ""

structure Found (c : Publishing ω) (user : String) (row : Row) : Prop extends Known c user where
  names : Names c.settings.naming c.saved c.project c.event row
  answered : c.wait.answered = true
  reads : c.saved.Reads [c.project, row.id]

structure Recorded (c : Publishing ω) (user : String) (row : Row) (record : String) : Prop
    extends Found c user row where
  external : row.externalId = some record
  nonempty : record ≠ ""

structure Planned (c : Publishing ω) (user : String) (row : Row) (record : String) : Prop
    extends Recorded c user row record where
  planned : ∃ snapshot, c.shown record = .ok snapshot ∧ c.status? snapshot = some .planned

structure Ready (c : Publishing ω) (user : String) (row : Row) (record : String) : Prop
    extends Planned c user row record where
  dated : c.dates.problems (c.now record) = []

/-- The settings tell where publications are asked for. -/
def Addressed (c : Publishing ω) : Prop :=
  ∃ url, urlOf c.settings.platform "publishRfx" = .ok url

/-- The first need that is not met decides the failure. -/
inductive Hindered (c : Publishing ω) : Failure → Prop
  | refused {failure : Failure} (h : c.told = .error failure) : Hindered c failure
  | unknown {answer : Option String} (h : c.told = .ok answer) (hnone : answer.getD "" = "") :
      Hindered c .userMissing
  | unfound {user : String} {failure : Failure} (needs : c.Known user)
      (h : c.found = .error failure) : Hindered c failure
  | unrecorded {user : String} {row : Row} (needs : c.Found user row)
      (h : row.externalId.getD "" = "") : Hindered c (.notPublishable c.event row.kind)
  | unshown {user : String} {row : Row} {record : String} {failure : Failure}
      (needs : c.Recorded user row record) (h : c.shown record = .error failure) :
      Hindered c failure
  | untranslated {user : String} {row : Row} {record : String} {snapshot : Snapshot}
      (needs : c.Recorded user row record) (hshown : c.shown record = .ok snapshot)
      (h : c.status? snapshot = none) :
      Hindered c (.platform (.unknownStatus (Status.codeText snapshot.statusCode?)))
  | unplanned {user : String} {row : Row} {record : String} {snapshot : Snapshot}
      {status : Status} (needs : c.Recorded user row record)
      (hshown : c.shown record = .ok snapshot) (hstatus : c.status? snapshot = some status)
      (h : status ≠ .planned) : Hindered c (.notPlanned c.event status)
  | undated {user : String} {row : Row} {record : String} (needs : c.Planned user row record)
      (h : c.dates.problems (c.now record) ≠ []) :
      Hindered c (.datesRefused (c.dates.problems (c.now record)))
  | unaddressed {user : String} {row : Row} {record : String} {failure : Failure}
      (needs : c.Ready user row record)
      (h : urlOf c.settings.platform "publishRfx" = .error failure) : Hindered c failure

/-! ## The call, stage by stage -/

/-- The last stage: dates are checked, and the order is sent. -/
def sending (c : Publishing ω) (user : String) (row : Row) (record : String) : Action ω Unit := do
  let now ← .ask .clock
  .ofExcept (c.dates.check now.instant)
  let _ ← publishRecord c.settings.platform (publishOrder record row.reference c.dates user)
  pure ()

/-- The stage in which the record is looked at. -/
def inspecting (c : Publishing ω) (user : String) (row : Row) : Action ω Unit := do
  match row.record? with
  | none => .fail (.notPublishable c.event row.kind)
  | some record =>
      let (status, _) ← statusOf c.settings row c.principal
      if status = .planned then c.sending user row record
      else .fail (.notPlanned c.event status)

theorem visit_eq (c : Publishing ω) :
    c.visit = (findUser c.principal >>= fun user =>
      findEvent c.settings c.project c.event >>= c.inspecting user) c.surroundings
        (.start c.saved c.memory) :=
  rfl

/-- The run after colleagues were asked for the user. -/
def begun (c : Publishing ω) : Run ω :=
  (Run.start c.saved c.memory).asking c.surroundings (.buyerUser c.principal)

/-- The run after the event was looked up. -/
def seen (c : Publishing ω) : Run ω :=
  c.begun.waiting c.wait

/-- The run after the record was shown. -/
def looked (c : Publishing ω) (record : String) : Run ω :=
  c.seen.asking c.surroundings (.exchange (.showRecord record))

variable {c : Publishing ω} {user record : String} {row : Row} {failure : Failure}

theorem found_eq_ok_iff :
    c.found = .ok row ↔ Names c.settings.naming c.saved c.project c.event row ∧
      c.wait.answered = true ∧ c.saved.Reads [c.project, row.id] := by
  exact Store.event_eq_ok_iff_names

theorem record?_eq (h : c.Recorded user row record) : row.record? = some record :=
  Row.record?_eq_some_iff.2 ⟨h.external, h.nonempty⟩

theorem visit_of_known (h : c.Known user) :
    c.visit = (findEvent c.settings c.project c.event >>= c.inspecting user) c.surroundings
      c.begun := by
  have huser : userOf c.told = .ok user := userOf_eq_ok_iff.2 ⟨h.told, h.named⟩
  rw [visit_eq]
  refine Action.bind_of_ok ((findUser_course c.principal).trans ?_)
  exact Prod.ext huser rfl

theorem visit_of_found (h : c.Found user row) :
    c.visit = c.inspecting user row c.surroundings c.seen := by
  have hfound : c.found = .ok row := found_eq_ok_iff.2 ⟨h.names, h.answered, h.reads⟩
  rw [visit_of_known h.toKnown]
  exact Action.bind_of_ok (findEvent_found rfl hfound)

theorem statusOf_of_shown {snapshot : Snapshot} (h : c.Recorded user row record)
    (hshown : c.shown record = .ok snapshot) :
    statusOf c.settings row c.principal c.surroundings c.seen =
      match c.status? snapshot with
      | some status => (.ok (status, some snapshot), c.looked record)
      | none => (.error (.platform (.unknownStatus (Status.codeText snapshot.statusCode?))),
          c.looked record) := by
  have hfetch : fetchRecord c.settings.platform record c.surroundings c.seen =
      (.ok snapshot, c.looked record) := by
    rw [← hshown]
    refine (fetchRecord_course record).trans ?_
    unfold shown at hshown ⊢
    rw [show (Request.showRecord record).endpoint = "exportRfx" from rfl]
    cases hurl : urlOf c.settings.platform "exportRfx" with
    | ok url => rfl
    | error failure =>
        rw [hurl] at hshown
        cases hshown
  unfold statusOf translate status?
  rw [record?_eq h]
  refine (Action.bind_of_ok hfetch).trans ?_
  cases lookup? c.settings.statuses (Status.codeText snapshot.statusCode?) <;> rfl

theorem statusOf_of_unshown (h : c.Recorded user row record)
    (hshown : c.shown record = .error failure) :
    ∃ r, statusOf c.settings row c.principal c.surroundings c.seen = (.error failure, r) ∧
      (r = c.seen ∨ r = c.looked record) := by
  unfold statusOf
  rw [record?_eq h]
  unfold shown at hshown
  have hfetch := fetchRecord_course (w := c.surroundings) (p := c.settings.platform) (r := c.seen)
    record
  rw [show (Request.showRecord record).endpoint = "exportRfx" from rfl] at hfetch
  cases hurl : urlOf c.settings.platform "exportRfx" with
  | ok url =>
      rw [hurl] at hshown hfetch
      have hfailed : Snapshot.ofReply record _ = .error failure := hshown
      exact ⟨c.looked record, Action.bind_of_error (hfetch.trans (Prod.ext hfailed rfl)), .inr rfl⟩
  | error failure' =>
      rw [hurl] at hshown hfetch
      cases hshown
      exact ⟨c.seen, Action.bind_of_error hfetch, .inl rfl⟩

theorem visit_of_recorded (h : c.Recorded user row record) :
    c.visit = (statusOf c.settings row c.principal >>= fun answer =>
      if answer.1 = .planned then c.sending user row record
      else .fail (.notPlanned c.event answer.1)) c.surroundings c.seen := by
  rw [visit_of_found h.toFound]
  unfold inspecting
  rw [record?_eq h]

theorem visit_of_planned (h : c.Planned user row record) :
    c.visit = c.sending user row record c.surroundings (c.looked record) := by
  rcases h.planned with ⟨snapshot, hshown, hstatus⟩
  have hanswer := statusOf_of_shown h.toRecorded hshown
  rw [hstatus] at hanswer
  rw [visit_of_recorded h.toRecorded]
  exact Action.bind_of_ok hanswer

/-! ## Endings -/

/-- Nothing was published, and nothing changed in the table. -/
structure Withheld (c : Publishing ω) (r : Run ω) : Prop where
  session : r.session = .fresh c.saved
  unsent : ∀ order, .publish order ∉ requestsOf r.asked

theorem begun_withheld (c : Publishing ω) : c.Withheld c.begun where
  session := rfl
  unsent := fun _ => List.not_mem_nil

theorem requestsOf_seen (c : Publishing ω) : requestsOf c.seen.asked = [] :=
  requestsOf_waiting _ _ _ _

theorem requestsOf_looked (c : Publishing ω) (record : String) :
    requestsOf (c.looked record).asked = [.showRecord record] := by
  have hseen := c.requestsOf_seen
  unfold looked
  rw [requestsOf_asking, hseen]
  rfl

theorem seen_withheld (c : Publishing ω) : c.Withheld c.seen where
  session := rfl
  unsent := by
    rw [requestsOf_seen]
    exact fun _ => List.not_mem_nil

theorem looked_withheld (c : Publishing ω) (record : String) : c.Withheld (c.looked record) where
  session := rfl
  unsent := by
    rw [requestsOf_looked]
    intro order h
    cases List.mem_singleton.1 h

theorem Withheld.clock {r : Run ω} (h : c.Withheld r) :
    c.Withheld (r.asking c.surroundings .clock) where
  session := h.session
  unsent := by
    rw [requestsOf_asking]
    simpa [Question.request?] using h.unsent

theorem sending_of_undated (r : Run ω)
    (h : c.dates.problems (c.surroundings .clock r.memory).1.instant ≠ []) :
    c.sending user row record c.surroundings r =
      (.error (.datesRefused (c.dates.problems (c.surroundings .clock r.memory).1.instant)),
        r.asking c.surroundings .clock) := by
  have hcheck : c.dates.check (c.surroundings .clock r.memory).1.instant =
      .error (.datesRefused (c.dates.problems (c.surroundings .clock r.memory).1.instant)) := by
    unfold Publication.check
    split
    · rename_i hnone
      exact absurd hnone h
    · rfl
  unfold sending
  rw [Action.bind_apply, Action.ask_apply]
  dsimp only
  rw [hcheck]
  rfl

theorem sending_of_dated (r : Run ω)
    (h : c.dates.problems (c.surroundings .clock r.memory).1.instant = []) :
    c.sending user row record c.surroundings r =
      (publishRecord c.settings.platform (publishOrder record row.reference c.dates user) >>=
        fun _ => pure ()) c.surroundings (r.asking c.surroundings .clock) := by
  have hcheck : c.dates.check (c.surroundings .clock r.memory).1.instant = .ok () := by
    unfold Publication.check
    rw [h]
  unfold sending
  rw [Action.bind_apply, Action.ask_apply]
  dsimp only
  rw [hcheck]
  rfl

/-- What stops a call decides its failure. -/
theorem visit_of_hindered (h : c.Hindered failure) :
    c.visit.1 = .error failure ∧ c.Withheld c.visit.2 := by
  have told : ∀ failure, userOf c.told = .error failure → c.visit = (.error failure, c.begun) := by
    intro failure htold
    rw [visit_eq]
    refine Action.bind_of_error ((findUser_course c.principal).trans ?_)
    exact Prod.ext htold rfl
  cases h with
  | refused h =>
      have huser : userOf c.told = .error failure := by
        rw [h]
        rfl
      rw [told failure huser]
      exact ⟨rfl, c.begun_withheld⟩
  | unknown h hnone =>
      have huser : userOf c.told = .error .userMissing := by
        rw [h]
        exact userOf_of_nameless hnone
      rw [told .userMissing huser]
      exact ⟨rfl, c.begun_withheld⟩
  | unfound needs h =>
      -- An event id that cannot be read is refused before the store is asked.
      have hsearch : findEvent c.settings c.project c.event c.surroundings c.begun =
          (.error failure, if (eventNumber c.settings.naming c.event).isOk then c.seen
            else c.begun) := by
        rw [← h]
        exact findEvent_course rfl c.settings c.project c.event
      rw [visit_of_known needs, Action.bind_of_error hsearch]
      refine ⟨rfl, ?_⟩
      dsimp only
      split
      · exact c.seen_withheld
      · exact c.begun_withheld
  | unrecorded needs h =>
      have hnone : Row.record? _ = none := Row.record?_eq_none_iff.2 h
      rw [visit_of_found needs]
      unfold inspecting
      rw [hnone]
      exact ⟨rfl, c.seen_withheld⟩
  | unshown needs h =>
      rcases statusOf_of_unshown needs h with ⟨r, hstatus, hr⟩
      rw [visit_of_recorded needs, Action.bind_of_error hstatus]
      refine ⟨rfl, ?_⟩
      rcases hr with rfl | rfl
      · exact c.seen_withheld
      · exact c.looked_withheld _
  | untranslated needs hshown h =>
      have hstatus := statusOf_of_shown needs hshown
      rw [h] at hstatus
      rw [visit_of_recorded needs, Action.bind_of_error hstatus]
      exact ⟨rfl, c.looked_withheld _⟩
  | unplanned needs hshown hstatus h =>
      have hanswer := statusOf_of_shown needs hshown
      rw [hstatus] at hanswer
      rw [visit_of_recorded needs, Action.bind_of_ok hanswer, if_neg h]
      exact ⟨rfl, c.looked_withheld _⟩
  | undated needs h =>
      rw [visit_of_planned needs, sending_of_undated (c.looked _) h]
      exact ⟨rfl, (c.looked_withheld _).clock⟩
  | unaddressed needs h =>
      rename_i user row record
      have hunsent := publishRecord_course (w := c.surroundings) (p := c.settings.platform)
        (r := (c.looked record).asking c.surroundings .clock)
        (publishOrder record row.reference c.dates user)
      rw [h] at hunsent
      rw [visit_of_planned needs.toPlanned, sending_of_dated (c.looked record) needs.dated,
        Action.bind_of_error hunsent]
      exact ⟨rfl, (c.looked_withheld record).clock⟩

/-- An order that everything is ready for is sent behind one look at the record. -/
theorem visit_of_ready (h : c.Ready user row record) (ha : c.Addressed) :
    c.visit.2.session = .fresh c.saved ∧ requestsOf c.visit.2.asked =
      [.showRecord record, .publish (publishOrder record row.reference c.dates user)] := by
  let order : PublishOrder := publishOrder record row.reference c.dates user
  let timed : Run ω := (c.looked record).asking c.surroundings .clock
  have hsent : c.visit.2 = timed.asking c.surroundings (.exchange (.publish order)) := by
    have hcourse := publishRecord_course (w := c.surroundings) (p := c.settings.platform)
      (r := timed) order
    rcases ha with ⟨url, hurl⟩
    rw [hurl] at hcourse
    rw [visit_of_planned h.toPlanned, sending_of_dated (c.looked record) h.dated,
      Action.bind_pure_run, hcourse]
  rw [hsent]
  refine ⟨rfl, ?_⟩
  simp only [timed, requestsOf_asking, requestsOf_looked]
  rfl

/-! ## All calls -/

/-- Either everything is there for a publication, or something stops it. -/
def Settled (c : Publishing ω) : Prop :=
  (c.Addressed ∧ ∃ user row record, c.Ready user row record) ∨ ∃ failure, c.Hindered failure

theorem settled_of_recorded (h : c.Recorded user row record) : c.Settled := by
  cases hshown : c.shown record with
  | error failure => exact .inr ⟨failure, .unshown h hshown⟩
  | ok snapshot =>
      cases hstatus : c.status? snapshot with
      | none => exact .inr ⟨_, .untranslated h hshown hstatus⟩
      | some status =>
          by_cases hplanned : status = .planned
          · rw [hplanned] at hstatus
            have planned : c.Planned user row record := ⟨h, snapshot, hshown, hstatus⟩
            by_cases hdated : c.dates.problems (c.now record) = []
            · have ready : c.Ready user row record := ⟨planned, hdated⟩
              cases hurl : urlOf c.settings.platform "publishRfx" with
              | error failure => exact .inr ⟨failure, .unaddressed ready hurl⟩
              | ok url => exact .inl ⟨⟨url, hurl⟩, user, row, record, ready⟩
            · exact .inr ⟨_, .undated planned hdated⟩
          · exact .inr ⟨_, .unplanned h hshown hstatus hplanned⟩

theorem settled_of_found (h : c.Found user row) : c.Settled := by
  by_cases hnone : row.externalId.getD "" = ""
  · exact .inr ⟨_, .unrecorded h hnone⟩
  cases hexternal : row.externalId with
  | none =>
      rw [hexternal] at hnone
      exact absurd rfl hnone
  | some record =>
      rw [hexternal] at hnone
      exact settled_of_recorded ⟨h, hexternal, hnone⟩

theorem settled (c : Publishing ω) : c.Settled := by
  cases htold : c.told with
  | error failure => exact .inr ⟨failure, .refused htold⟩
  | ok answer =>
      by_cases hnone : answer.getD "" = ""
      · exact .inr ⟨_, .unknown htold hnone⟩
      cases answer with
      | none => exact absurd rfl hnone
      | some user =>
          have hknown : c.Known user := ⟨htold, hnone⟩
          cases hfound : c.found with
          | error failure => exact .inr ⟨failure, .unfound hknown hfound⟩
          | ok row =>
              rcases found_eq_ok_iff.1 hfound with ⟨hnames, hanswered, hreads⟩
              exact settled_of_found ⟨hknown, hnames, hanswered, hreads⟩

/-- An event is published exactly when everything is ready. The order is sent once, behind one look
at the record, and says what was found out before; where none is sent, the first need that is not
met decides the failure. The table is never changed. -/
theorem publish_sent_iff (c : Publishing ω) :
    c.visit.2.session = .fresh c.saved ∧
      ((∃ order, .publish order ∈ requestsOf c.visit.2.asked) ↔
        c.Addressed ∧ ∃ user row record, c.Ready user row record) ∧
      (∀ user row record, c.Addressed → c.Ready user row record →
        requestsOf c.visit.2.asked = [.showRecord record, .publish {
          id := record, reference := .ofOption row.reference, operator := { id := .set user },
          closing := .set c.dates.closing.text }]) ∧
      ((∀ order, .publish order ∉ requestsOf c.visit.2.asked) →
        ∃ failure, c.Hindered failure ∧ c.visit.1 = .error failure) := by
  have hsent : ∀ user row record, c.Addressed → c.Ready user row record →
      ∃ order, .publish order ∈ requestsOf c.visit.2.asked := by
    intro user row record haddressed hready
    rw [(visit_of_ready hready haddressed).2]
    exact ⟨_, List.mem_cons_of_mem _ List.mem_cons_self⟩
  refine ⟨?_, ⟨?_, ?_⟩, ?_, ?_⟩
  · rcases c.settled with ⟨haddressed, user, row, record, hready⟩ | ⟨failure, h⟩
    · exact (visit_of_ready hready haddressed).1
    · exact (visit_of_hindered h).2.session
  · rintro ⟨order, horder⟩
    rcases c.settled with hready | ⟨failure, h⟩
    · exact hready
    · exact absurd horder ((visit_of_hindered h).2.unsent order)
  · rintro ⟨haddressed, user, row, record, hready⟩
    exact hsent user row record haddressed hready
  · exact fun user row record haddressed hready => (visit_of_ready hready haddressed).2
  · intro hunsent
    rcases c.settled with ⟨haddressed, user, row, record, hready⟩ | ⟨failure, h⟩
    · rcases hsent user row record haddressed hready with ⟨order, horder⟩
      exact absurd horder (hunsent order)
    · exact ⟨failure, h, (visit_of_hindered h).1⟩

end Publishing
end Desk
end TenderDesk
