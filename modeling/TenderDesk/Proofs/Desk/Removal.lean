import Mathlib.Data.List.Count
import TenderDesk.Proofs.Desk.Operations
import TenderDesk.Proofs.Desk.Suppliers

/-!
# Removal — a supplier is taken off a record

The platform cannot take one supplier off a list. The desk looks at the record, and sends the list
again without it.

* `Removal.Found` collects what comes first: an event of the platform, and an organisation with a
  link.
* `remaining` companies are those that the entries of the list name but for one, in the same order
  and as often as before (`map_some_remaining`, `count_remaining`).
* `removal_sends`: a record that lists the company is sent that list, once and behind one look at
  the record. Of any other record nothing is sent but the question for it.
-/

namespace TenderDesk
namespace Desk

open Sourcing

/-! ## Lists without a company -/

section

variable {snapshot : Snapshot} {company : Int}

/-- What is left gets shorter exactly when the company was listed. -/
theorem length_remaining_eq_iff :
    (remaining snapshot company).length =
        (snapshot.supplierItems.filterMap Supplier.companyId?).length ↔
      some company ∉ snapshot.supplierItems.map Supplier.companyId? := by
  unfold remaining
  rw [List.length_filter_eq_length_iff, List.mem_map, ← List.mem_filterMap]
  constructor
  · intro h hmem
    simpa using h company hmem
  · intro h other hother
    exact bne_iff_ne.2 fun heq => h (heq ▸ hother)

/-- What is left is what the entries say that name another company. -/
theorem map_some_remaining (snapshot : Snapshot) (company : Int) :
    (remaining snapshot company).map some =
      (snapshot.supplierItems.map Supplier.companyId?).filter
        fun named => named ≠ none ∧ named ≠ some company := by
  unfold remaining
  induction snapshot.supplierItems with
  | nil => rfl
  | cons entry entries ih =>
      cases hentry : entry.companyId? with
      | none => simpa [hentry] using ih
      | some other => by_cases hother : other = company <;> simpa [hentry, hother] using ih

/-- One company is taken off, and no entry for another one gets lost. -/
theorem count_remaining (snapshot : Snapshot) (company other : Int) :
    (remaining snapshot company).count other =
      if other = company then 0
      else (snapshot.supplierItems.map Supplier.companyId?).count (some other) := by
  rw [← List.count_map_of_injective _ some (fun _ _ => Option.some.inj), map_some_remaining]
  split
  · rename_i hsame
    rw [hsame]
    exact List.count_eq_zero.2 (by simp)
  · rename_i hother
    exact List.count_filter (by simp [hother])

end

/-! ## Removals -/

/-- A call to delete a supplier of an event, and everything that it meets. -/
structure Removal (ω : Type) where
  settings : Settings
  surroundings : Surroundings ω
  saved : Store
  memory : ω
  project : Int
  event : String
  organisation : String
  principal : String

namespace Removal

variable {ω : Type}

/-- The wait for the store in which the event is looked up. -/
def wait (c : Removal ω) : Wait ω :=
  c.surroundings.wait c.settings.attempts c.memory

/-- The wait for the store in which the link is looked up. -/
def linkWait (c : Removal ω) : Wait ω :=
  c.surroundings.wait c.settings.attempts c.wait.memory

/-- How the call ends. -/
def visit (c : Removal ω) : Except Failure Unit × Run ω :=
  (Call.deleteSupplier c.project c.event c.organisation c.principal).visit c.settings
    c.surroundings c.saved c.memory

/-- The event is one of the platform, and the organisation has a link. -/
structure Found (c : Removal ω) (row : Row) (link : Link) : Prop extends
    Placed c.settings c.saved c.project c.event row where
  platform : ∃ kind : EventKind, row.kind = kind.name ∧ kind.owner = .platform
  linked : c.saved.linkOf? c.organisation = some link
  answered : c.wait.answered = true
  linkAnswered : c.linkWait.answered = true

/-- The run after both were looked up. -/
def seen (c : Removal ω) : Run ω :=
  ((Run.start c.saved c.memory).waiting c.wait).waiting c.linkWait

/-- What the platform shows of the record, where it can be asked. -/
def shown (c : Removal ω) (row : Row) : Except Failure Snapshot :=
  (urlOf c.settings.platform "exportRfx").bind fun _ =>
    Snapshot.ofReply (recordName row)
      (c.surroundings (.exchange (.showRecord (recordName row))) c.linkWait.memory).1

variable {c : Removal ω} {row : Row} {link : Link} {snapshot : Snapshot} {failure : Failure}

theorem requestsOf_seen (c : Removal ω) : requestsOf c.seen.asked = [] := by
  unfold seen linkWait wait
  rw [requestsOf_waiting, requestsOf_waiting]
  rfl

theorem findLink_found {w : Surroundings ω} {r : Run ω} {s : Settings} {saved : Store}
    {organisation : String} (hr : r.session = .fresh saved) (hfits : saved.fits = true)
    (hanswered : (w.wait s.attempts r.memory).answered = true)
    (hlink : saved.linkOf? organisation = some link) :
    findLink s organisation w r = (.ok link, r.waiting (w.wait s.attempts r.memory)) := by
  have hlook : saved.lookUp [] (fun s => s.linkOf? organisation)
      (w.wait s.attempts r.memory).answered = .ok (some link) :=
    Store.lookUp_eq_ok_iff.2 ⟨hanswered, ⟨hfits, rfl⟩, hlink⟩
  unfold findLink
  rw [Action.bind_of_ok ((look_course hr s _ _).trans (Prod.ext hlook rfl))]
  rfl

/-- Behind an event of the platform and a link, the deletion goes by the record. -/
theorem visit_of_found (h : c.Found row link) :
    c.visit = deleteListed c.settings row link c.surroundings c.seen := by
  have hfound : c.saved.event c.settings.naming c.project c.event c.wait.answered = .ok row :=
    Store.event_eq_ok_iff_names.2 ⟨h.names, h.answered, h.reads⟩
  have hkeeper : keeper row = .ok .platform := by
    obtain ⟨kind, hkind, howner⟩ := h.platform
    rw [keeper_of_kind hkind, howner]
  show (findEvent c.settings c.project c.event >>= fun row =>
    deleteSupplierOf c.settings row c.organisation c.principal) c.surroundings
      (.start c.saved c.memory) = _
  rw [Action.bind_of_ok (findEvent_found rfl hfound)]
  have hlink := findLink_found (w := c.surroundings) (s := c.settings)
    (r := (Run.start c.saved c.memory).waiting c.wait) rfl h.reads.1 h.linkAnswered h.linked
  show deleteSupplierOf c.settings row c.organisation c.principal c.surroundings
    ((Run.start c.saved c.memory).waiting c.wait) = _
  unfold deleteSupplierOf
  rw [Action.bind_of_ok hlink, hkeeper]
  rfl

/-- The run after the record was asked for, if its address is known. -/
def looked (c : Removal ω) (row : Row) : Run ω :=
  match urlOf c.settings.platform "exportRfx" with
  | .ok _ => c.seen.asking c.surroundings (.exchange (.showRecord (recordName row)))
  | .error _ => c.seen

theorem fetch_eq (c : Removal ω) (row : Row) :
    fetchRecord c.settings.platform (recordName row) c.surroundings c.seen =
      (c.shown row, c.looked row) := by
  rw [fetchRecord_course,
    show (Request.showRecord (recordName row)).endpoint = "exportRfx" from rfl]
  unfold shown looked
  cases urlOf c.settings.platform "exportRfx" <;> rfl

theorem looked_session (c : Removal ω) (row : Row) :
    (c.looked row).session = .fresh c.saved := by
  unfold looked
  split <;> rfl

theorem requestsOf_looked (c : Removal ω) (row : Row) :
    ∀ request ∈ requestsOf (c.looked row).asked, request = .showRecord (recordName row) := by
  unfold looked
  split
  · rw [requestsOf_asking, requestsOf_seen]
    exact fun request hrequest => List.mem_singleton.1 hrequest
  · rw [requestsOf_seen]
    exact fun _ hnone => absurd hnone List.not_mem_nil

/-- A record that is shown was asked for once. -/
theorem requestsOf_of_shown (h : c.shown row = .ok snapshot) :
    requestsOf (c.looked row).asked = [.showRecord (recordName row)] := by
  unfold shown at h
  unfold looked
  cases hurl : urlOf c.settings.platform "exportRfx" with
  | error failure =>
      rw [hurl] at h
      cases h
  | ok url =>
      dsimp only
      rw [requestsOf_asking, requestsOf_seen]
      rfl

/-- A record that cannot be shown ends the deletion. -/
theorem visit_of_unshown (h : c.Found row link) (hshown : c.shown row = .error failure) :
    c.visit = (.error failure, c.looked row) := by
  have hfetch := c.fetch_eq row
  rw [hshown] at hfetch
  rw [visit_of_found h]
  unfold deleteListed
  exact Action.bind_of_error hfetch

/-- So does a record that does not list the company. -/
theorem visit_of_unlisted (h : c.Found row link) (hshown : c.shown row = .ok snapshot)
    (hlisted : some link.company ∉ snapshot.supplierItems.map Supplier.companyId?) :
    c.visit = (.error (.supplierNotListed c.organisation row.publicId), c.looked row) := by
  have hfetch := c.fetch_eq row
  rw [hshown] at hfetch
  rw [visit_of_found h]
  unfold deleteListed
  rw [Action.bind_of_ok hfetch, ← organisation_of_linkOf? h.linked]
  exact congrFun (congrFun (if_pos (length_remaining_eq_iff.2 hlisted)) _) _

/-- A reply is a receipt exactly when it is accepted for a change. -/
theorem receipt?_isSome_iff (reply : Reply) (endpoint name action : String) :
    reply.receipt?.isSome ↔ ∃ receipt,
      reply.told (Receipt.ofFullAnswer name action) endpoint = .ok receipt := by
  rw [Option.isSome_iff_exists]
  exact exists_congr fun receipt =>
    (Reply.told_eq_ok_iff fun _ _ => Receipt.ofFullAnswer_eq_ok_iff).symm

section

variable {w : Surroundings ω} {r : Run ω}

theorem writeRecord_course (p : Platform) (command : Command) (rfx : Rfx) :
    writeRecord p command rfx w r =
      match urlOf p "createRfx" with
      | .ok _ =>
          ((w (.exchange (.write ⟨command, rfx⟩)) r.memory).1.told
            (Receipt.ofFullAnswer (answerName command) command.name) "createRfx",
              r.asking w (.exchange (.write ⟨command, rfx⟩)))
      | .error failure => (.error failure, r) :=
  change_course _ _

theorem writeRecord_session (p : Platform) (command : Command) (rfx : Rfx) :
    ((writeRecord p command rfx >>= fun _ => pure ()) w r).2.session = r.session := by
  rw [Action.bind_pure_run, writeRecord_course]
  split <;> rfl

/-- A change that is sent is done exactly when the reply is a receipt. -/
theorem writeRecord_ends (haddress : Reaches c.settings "createRfx") (command : Command)
    (rfx : Rfx) :
    let request : Request := .write ⟨command, rfx⟩
    let end_ := (writeRecord c.settings.platform command rfx >>= fun _ => pure ()) w r
    end_.2 = r.asking w (.exchange request) ∧
      (end_.1 = .ok () ↔ (w (.exchange request) r.memory).1.receipt?.isSome) := by
  intro request end_
  obtain ⟨url, hurl⟩ := haddress
  have hcourse := writeRecord_course (w := w) (r := r) c.settings.platform command rfx
  rw [hurl] at hcourse
  rw [receipt?_isSome_iff _ "createRfx" (answerName command) command.name]
  cases hanswer : (w (.exchange request) r.memory).1.told
      (Receipt.ofFullAnswer (answerName command) command.name) "createRfx" with
  | error failure =>
      rw [hanswer] at hcourse
      have hend : end_ = _ := Action.bind_of_error hcourse
      rw [hend]
      exact ⟨rfl, nofun, nofun⟩
  | ok receipt =>
      rw [hanswer] at hcourse
      have hend : end_ = _ := Action.bind_of_ok hcourse
      rw [hend]
      exact ⟨rfl, fun _ => ⟨receipt, rfl⟩, fun _ => rfl⟩

theorem writeRecord_unreached (haddress : ¬Reaches c.settings "createRfx") (command : Command)
    (rfx : Rfx) :
    ∃ failure, (writeRecord c.settings.platform command rfx >>= fun _ => pure ()) w r =
      (.error failure, r) := by
  cases hurl : urlOf c.settings.platform "createRfx" with
  | ok url => exact absurd ⟨url, hurl⟩ haddress
  | error failure =>
      refine ⟨failure, Action.bind_of_error ?_⟩
      rw [writeRecord_course, hurl]

end

/-- Otherwise the list is sent again. -/
theorem visit_of_listed (h : c.Found row link) (hshown : c.shown row = .ok snapshot)
    (hlisted : some link.company ∈ snapshot.supplierItems.map Supplier.companyId?) :
    c.visit = (writeRecord c.settings.platform .updateReset
      (supplierChange row (remaining snapshot link.company)) >>= fun _ => pure ())
        c.surroundings (c.looked row) := by
  have hfetch := c.fetch_eq row
  rw [hshown] at hfetch
  rw [visit_of_found h]
  unfold deleteListed
  rw [Action.bind_of_ok hfetch]
  exact congrFun (congrFun (if_neg fun heq => length_remaining_eq_iff.1 heq hlisted) _) _

theorem visit_session (h : c.Found row link) : c.visit.2.session = .fresh c.saved := by
  have hsession := c.looked_session row
  cases hshown : c.shown row with
  | error failure =>
      rw [visit_of_unshown h hshown]
      exact hsession
  | ok snapshot =>
      by_cases hlisted : some link.company ∈ snapshot.supplierItems.map Supplier.companyId?
      · rw [visit_of_listed h hshown hlisted, writeRecord_session]
        exact hsession
      · rw [visit_of_unlisted h hshown hlisted]
        exact hsession

/-- The desk looks at the record first. When it cannot be shown, or does not list the company,
nothing else is asked of the platform. Otherwise one reset is sent: it names the record, and its
list says what the entries say that name other companies, each as often as before and in the same
order. Without an address for changes it is not sent, and the deletion fails. The table is left as
it was. -/
theorem removal_sends (h : c.Found row link) :
    c.visit.2.session = .fresh c.saved ∧
      (∀ failure, c.shown row = .error failure → c.visit.1 = .error failure ∧
        ∀ request ∈ requestsOf c.visit.2.asked, request = .showRecord (recordName row)) ∧
      ∀ snapshot, c.shown row = .ok snapshot →
        let listed := snapshot.supplierItems.map Supplier.companyId?
        (some link.company ∉ listed →
          requestsOf c.visit.2.asked = [.showRecord (recordName row)] ∧
            ∃ failure, c.visit.1 = .error failure ∧ failure.category = .notFound) ∧
        (some link.company ∈ listed → ¬Reaches c.settings "createRfx" →
          requestsOf c.visit.2.asked = [.showRecord (recordName row)] ∧ c.visit.1 ≠ .ok ()) ∧
        (some link.company ∈ listed → Reaches c.settings "createRfx" →
          ∃ companies : List Int,
            let request : Request := .write ⟨.updateReset,
              { Rfx.key row.externalId row.reference with
                suppliers := .set (.ofCompanies companies) }⟩
            requestsOf c.visit.2.asked = [.showRecord (recordName row), request] ∧
              companies.map some =
                listed.filter (fun named => named ≠ none ∧ named ≠ some link.company) ∧
              (∀ company, companies.count company =
                if company = link.company then 0 else listed.count (some company)) ∧
              (c.visit.1 = .ok () ↔
                (c.surroundings (.exchange request) (c.looked row).memory).1.receipt?.isSome)) := by
  refine ⟨visit_session h, fun failure hshown => ?_, fun snapshot hshown => ?_⟩
  · rw [visit_of_unshown h hshown]
    exact ⟨rfl, c.requestsOf_looked row⟩
  have hasked := requestsOf_of_shown hshown
  refine ⟨fun hlisted => ?_, fun hlisted haddress => ?_, fun hlisted haddress => ?_⟩
  · rw [visit_of_unlisted h hshown hlisted]
    exact ⟨hasked, _, rfl, rfl⟩
  · obtain ⟨failure, hvisit⟩ := writeRecord_unreached (w := c.surroundings) (r := c.looked row)
      haddress .updateReset (supplierChange row (remaining snapshot link.company))
    rw [visit_of_listed h hshown hlisted, hvisit]
    exact ⟨hasked, nofun⟩
  · obtain ⟨hrun, hdone⟩ := writeRecord_ends (w := c.surroundings) (r := c.looked row) haddress
      .updateReset (supplierChange row (remaining snapshot link.company))
    rw [← visit_of_listed h hshown hlisted] at hrun hdone
    refine ⟨remaining snapshot link.company, ?_, map_some_remaining _ _, fun company => ?_, hdone⟩
    · rw [hrun, requestsOf_asking, hasked]
      rfl
    · exact count_remaining snapshot link.company company

/-- Entries of a list with a company that occurs twice, and one entry that names no company. -/
def repeatedEntries : List Json :=
  [.obj [("companyData", .obj [("id", .int 7)])], .obj [],
    .obj [("companyData", .obj [("id", .int 8)])], .obj [("companyData", .obj [("id", .int 7)])]]

def listingRow : Row :=
  { draft benchSettings benchProject "Pens" .rfi false "buyer" with
    id := 1, externalId := some "rfq_1" }

/-- A deletion of the company that occurs twice; the platform does as it is told. -/
def ofRepeated : Removal Scene where
  settings := benchSettings
  surroundings := Scene.surroundings
  saved := { projects := [benchProject], links := [⟨"GB-1", 7⟩], rows := [listingRow] }
  memory := {
    now := default
    replies := [.ofJson (.obj [("dataList", .arr [.obj [("suppliersList",
      .obj [("supplier", .arr repeatedEntries)])]])]), .ofReceipt benchDone] }
  project := 1
  event := "ocds-b5fd17-1"
  organisation := "GB-1"
  principal := "buyer"

/-- Both entries of the company go, and so does the one that names none. -/
theorem removal_sends_repeated :
    requestsOf ofRepeated.visit.2.asked = [.showRecord "rfq_1", .write ⟨.updateReset,
        { Rfx.key (some "rfq_1") none with suppliers := .set (.ofCompanies [8]) }⟩] ∧
      ofRepeated.visit.1 = .ok () := by
  have hfound : ofRepeated.Found listingRow ⟨"GB-1", 7⟩ := by
    refine ⟨⟨⟨1, ?_, ?_⟩, ?_, ?_⟩, ⟨.rfi, rfl, rfl⟩, ?_, rfl, rfl⟩
    all_goals decide +kernel
  let snapshot : Snapshot := { suppliers := .set { suppliers := .set [
    { company := .set { id := .set 7 } }, {}, { company := .set { id := .set 8 } },
    { company := .set { id := .set 7 } }] } }
  have hshown : ofRepeated.shown listingRow = .ok snapshot := by decide +kernel
  have haddress : Reaches ofRepeated.settings "createRfx" :=
    ⟨"http://remote.test/create", by decide +kernel⟩
  obtain ⟨companies, hsent, hleft, -, hdone⟩ :=
    ((removal_sends hfound).2.2 snapshot hshown).2.2 (by decide) haddress
  have hcompanies : companies = [8] :=
    List.map_injective_iff.2 (fun _ _ => Option.some.inj) (hleft.trans (by decide))
  subst hcompanies
  exact ⟨hsent, hdone.2 (by decide +kernel)⟩

end Removal

end Desk
end TenderDesk
