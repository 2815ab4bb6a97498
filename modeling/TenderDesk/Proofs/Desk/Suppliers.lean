import TenderDesk.Proofs.Desk.Calm
import TenderDesk.Proofs.Desk.Showing
import TenderDesk.Proofs.Store.Links

/-!
# Suppliers — what becomes of a supplier list, wherever it is kept

Nothing fails here but for what was asked for: the surroundings are calm, and the platform does as
it is told (`Lists`).

* Whoever keeps a list, an addition with an organisation without a link misses, and so does the
  deletion of an organisation without one.
* `addSuppliers_table` and `deleteSupplier_table` change the selections of a row,
  `addSuppliers_platform` and `deleteSupplier_platform` send the companies of a record.
* `listSuppliers_table` and `listSuppliers_platform` tell the list under the names of organisations.
-/

namespace TenderDesk
namespace Desk

open Sourcing

variable {ω : Type} {w : Surroundings ω} {I J : Trail ω} {saved : Store} {s : Settings}
variable {project : Int} {event : String} {row : Row} {refs : List SupplierRef} {overwrite : Bool}
variable {organisation principal : String}

/-- The store can be asked for an event, and tells its row. -/
structure Placed (s : Settings) (saved : Store) (project : Int) (event : String) (row : Row) :
    Prop where
  names : Names s.naming saved project event row
  reads : saved.Reads [project, row.id]

theorem keeper_congr {row' : Row} {k : Keeper} (h : keeper row = .ok k)
    (hkind : row'.kind = row.kind) : keeper row' = .ok k := by
  unfold keeper at h ⊢
  rw [hkind]
  split at h
  · split at h <;> first | exact h | cases h
  · cases h

/-- The kind of an event decides who keeps its suppliers. -/
theorem keeper_of_kind {kind : EventKind} (hkind : row.kind = kind.name) :
    keeper row = match kind.owner with
      | .nobody => .error (.suppliersUnowned row.publicId)
      | .assessment => .ok .table
      | .platform => .ok .platform := by
  have hname : EventKind.ofName row.kind = .ok kind := ofName_eq_ok_iff.2 hkind
  cases kind <;> simp only [keeper, hname, EventKind.owner]

/-- Rows that differ in their selections only fit into the store alike. -/
theorem fits_replace {row' : Row} (hfits : saved.fits = true) (hmem : row ∈ saved.rows)
    (hassessment : row'.assessment = row.assessment) (htarget : row'.target = row.target) :
    (saved.replace row').fits = true := by
  have hrow : row.fits = true := Store.fits_iff.1 hfits row hmem
  apply Store.fits_replace hfits
  unfold Row.fits at hrow ⊢
  rw [hassessment, htarget]
  exact hrow

theorem Placed.reselect (h : Placed s saved project event row) (hs : saved.Numbered)
    (selections : List Selection) (updatedBy : String) :
    Placed s (saved.replace { row with selections, updatedBy }) project event
      { row with selections, updatedBy } := by
  have hrow := row?_of_names h.names
  have hproject : row.project = project := (Store.of_row? hrow).1
  refine ⟨⟨row.id, id_of_names h.names, ?_⟩, fits_replace h.reads.1 h.names.mem rfl rfl, h.reads.2⟩
  rw [← hproject] at hrow ⊢
  exact Store.row?_replace_self hs hrow rfl rfl

theorem Placed.beside {row' before : Row} (h : Placed s saved project event row)
    (hmem : before ∈ saved.rows) (hassessment : row'.assessment = before.assessment)
    (htarget : row'.target = before.target) (hne : row.id ≠ row'.id) :
    Placed s (saved.replace row') project event row := by
  refine ⟨⟨row.id, id_of_names h.names, ?_⟩, fits_replace h.reads.1 hmem hassessment htarget,
    h.reads.2⟩
  rw [Store.row?_replace_other hne]
  exact row?_of_names h.names

/-! ## Links that were found -/

theorem found_subset {organisations : List String} :
    organisations.filterMap saved.linkOf? ⊆ saved.links := by
  intro link hlink
  rcases List.mem_filterMap.1 hlink with ⟨organisation, -, hfound⟩
  exact List.mem_of_find?_eq_some hfound

theorem found_nodup {organisations : List String} (hlinked : Linked saved organisations) :
    (organisations.eraseDups.filterMap saved.linkOf?).Nodup := by
  have hnames := map_organisation_of_linked (linked_eraseDups.2 hlinked)
  have hnodup : ((organisations.eraseDups.filterMap saved.linkOf?).map (·.organisation)).Nodup := by
    rw [hnames]
    exact nodup_eraseDups organisations
  exact hnodup.of_map

/-! ## Without a link -/

theorem addSuppliers_missing (hI : Calm w I) (h : Placed s saved project event row)
    (hunlinked : ¬Linked saved (refs.map (·.id))) :
    Triple w (Run.At (.fresh saved) I) (addSuppliers s project event refs overwrite principal)
      (fun _ _ => False) (Misses saved I) := by
  unfold addSuppliers addSuppliersTo
  apply Triple.bind_known (findEvent_calm hI h.names h.reads)
  rw [bind_assoc]
  apply Triple.bind (links_missing hI h.reads.1 hunlinked s)
  exact fun _ _ h => absurd h id

theorem deleteSupplier_missing (hI : Calm w I) (h : Placed s saved project event row)
    (hunlinked : saved.linkOf? organisation = none) :
    Triple w (Run.At (.fresh saved) I) (deleteSupplier s project event organisation principal)
      (fun _ _ => False) (Misses saved I) := by
  unfold deleteSupplier deleteSupplierOf
  apply Triple.bind_known (findEvent_calm hI h.names h.reads)
  apply Triple.bind (findLink_missing hI h.reads.1 hunlinked s)
  exact fun _ _ h => absurd h id

/-- Once the event and the link are found, a deletion is up to who keeps the list. -/
theorem deleteSupplier_linked {k : Keeper} {Q : Unit → Run ω → Prop} {E : Failure → Run ω → Prop}
    (hI : Calm w I) (h : Placed s saved project event row) (hkeeper : keeper row = .ok k)
    {link : Link} (hlink : saved.linkOf? organisation = some link)
    (hrest : Triple w (Run.At (.fresh saved) I)
      (match k with
        | .table => deleteSelection row organisation principal
        | .platform => deleteListed s row link) Q E) :
    Triple w (Run.At (.fresh saved) I) (deleteSupplier s project event organisation principal)
      Q E := by
  unfold deleteSupplier deleteSupplierOf
  apply Triple.bind_known (findEvent_calm hI h.names h.reads)
  apply Triple.bind_known (findLink_calm hI h.reads.1 hlink s)
  rw [hkeeper, Action.ofExcept_ok, pure_bind, organisation_of_linkOf? hlink]
  cases k <;> exact hrest

/-! ## In the table -/

/-- The row without the selection of an organisation. -/
def withoutSupplier (row : Row) (organisation principal : String) : Row :=
  { row with
    selections := row.selections.eraseP fun s => s.organisation == organisation
    updatedBy := principal }

theorem organisations_withoutSupplier (row : Row) (organisation principal : String) :
    (withoutSupplier row organisation principal).organisations =
      row.organisations.erase organisation := by
  unfold withoutSupplier Row.organisations
  rw [List.erase_eq_eraseP', List.eraseP_map]
  rfl

theorem organisations_withSuppliers {organisations : List String} (h : organisations.Nodup)
    (row : Row) (overwrite : Bool) (principal : String) :
    (withSuppliers row organisations overwrite principal).organisations =
      appendNew (if overwrite then [] else row.organisations) organisations := by
  have hselect : ∀ kept : Row, (kept.select organisations principal).organisations =
      appendNew kept.organisations organisations := fun kept =>
    (Row.select_organisations kept organisations principal).trans
      (foldl_eq_appendNew h kept.organisations)
  unfold withSuppliers
  cases overwrite with
  | false => exact hselect row
  | true => exact hselect { row with selections := [] }

theorem addSuppliers_table (hI : Calm w I) (h : Placed s saved project event row)
    (hkeeper : keeper row = .ok .table) (hlinked : Linked saved (refs.map (·.id)))
    (overwrite : Bool) (principal : String) :
    Triple w (Run.At (.fresh saved) I) (addSuppliers s project event refs overwrite principal)
      (fun _ => Run.At (.fresh (saved.replace
        (withSuppliers row (refs.map (·.id)).eraseDups overwrite principal))) I) Never := by
  have hfits : (saved.replace
      (withSuppliers row (refs.map (·.id)).eraseDups overwrite principal)).fits = true := by
    refine fits_replace h.reads.1 h.names.mem ?_ ?_ <;> rw [withSuppliers_eq]
  unfold addSuppliers addSuppliersTo
  apply Triple.bind_known (findEvent_calm hI h.names h.reads)
  rw [bind_assoc]
  apply Triple.bind_known (links_calm hI h.reads.1 hlinked s)
  rw [hkeeper, Action.ofExcept_ok, pure_bind,
    map_organisation_of_linked (linked_eraseDups.2 hlinked), bind_assoc]
  apply Triple.bind (stage_triple _)
  intro _
  apply Triple.bind (save_calm hI hfits)
  intro _
  exact Triple.pure fun r h => h

theorem deleteSupplier_table (hI : Calm w I) (h : Placed s saved project event row)
    (hkeeper : keeper row = .ok .table) {link : Link}
    (hlink : saved.linkOf? organisation = some link) (hmem : organisation ∈ row.organisations) :
    Triple w (Run.At (.fresh saved) I) (deleteSupplier s project event organisation principal)
      (fun _ => Run.At (.fresh (saved.replace (withoutSupplier row organisation principal))) I)
      Never := by
  have hfits : (saved.replace (withoutSupplier row organisation principal)).fits = true :=
    fits_replace h.reads.1 h.names.mem rfl rfl
  apply deleteSupplier_linked hI h hkeeper hlink
  dsimp only
  unfold deleteSelection
  rw [if_pos (List.contains_iff_mem.2 hmem)]
  apply Triple.bind (stage_triple _)
  intro _
  exact save_calm hI hfits

theorem deleteSupplier_table_absent (hI : Calm w I) (h : Placed s saved project event row)
    (hkeeper : keeper row = .ok .table) {link : Link}
    (hlink : saved.linkOf? organisation = some link) (hmem : organisation ∉ row.organisations) :
    Triple w (Run.At (.fresh saved) I) (deleteSupplier s project event organisation principal)
      (fun _ _ => False) (Misses saved I) := by
  have hnone : ¬row.organisations.contains organisation = true := fun hc =>
    hmem (List.contains_iff_mem.1 hc)
  apply deleteSupplier_linked hI h hkeeper hlink
  dsimp only
  unfold deleteSelection
  rw [if_neg hnone]
  exact Triple.fail fun r h => ⟨rfl, h⟩

/-! ## On the platform -/

/-- What the platform knows of a change that sends companies and nothing else. -/
def listing (record : String) (reference : Option String) (companies : List Int) : Rfx :=
  { Rfx.key (some record) reference with suppliers := .set (.ofCompanies companies) }

/-- The settings tell where a request goes. -/
def Reaches (s : Settings) (endpoint : String) : Prop :=
  ∃ url, urlOf s.platform endpoint = .ok url

theorem writeRecord_calm {command : Command} {rfx : Rfx} {φ : Receipt → Prop} {σ : Session}
    (haddress : Reaches s "createRfx")
    (h : ∀ m asked, I m asked →
      (∃ receipt, (w (.exchange (.write ⟨command, rfx⟩)) m).1.receipt? = some receipt ∧
        φ receipt) ∧
        J (w (.exchange (.write ⟨command, rfx⟩)) m).2
          (asked ++ [.exchange (.write ⟨command, rfx⟩)])) :
    Triple w (Run.At σ I) (writeRecord s.platform command rfx)
      (fun receipt r => φ receipt ∧ r.At σ J) Never := by
  intro r hr
  rcases h r.memory r.asked hr.2 with ⟨⟨receipt, hreceipt, hφ⟩, hJ⟩
  rcases haddress with ⟨url, hurl⟩
  have hcourse := change_course (w := w) (p := s.platform) (r := r) (.write ⟨command, rfx⟩)
    (Receipt.ofFullAnswer (answerName command) command.name)
  rw [show (Request.write ⟨command, rfx⟩).endpoint = "createRfx" from rfl, hurl] at hcourse
  unfold writeRecord
  rw [hcourse]
  dsimp only
  rw [(Reply.told_eq_ok_iff fun _ _ => Receipt.ofFullAnswer_eq_ok_iff).2 hreceipt]
  exact ⟨hφ, hr.1, hJ⟩

/-- A change that is made whatever was listed before. -/
theorem writeRecord_made {command : Command} {rfx : Rfx} {σ : Session}
    (haddress : Reaches s "createRfx")
    (h : ∀ m asked, I m asked →
      (w (.exchange (.write ⟨command, rfx⟩)) m).1.receipt?.isSome ∧
        J (w (.exchange (.write ⟨command, rfx⟩)) m).2
          (asked ++ [.exchange (.write ⟨command, rfx⟩)])) :
    Triple w (Run.At σ I) (writeRecord s.platform command rfx) (fun _ => Run.At σ J) Never := by
  refine (writeRecord_calm (φ := fun _ => True) haddress fun m asked hm => ?_).mono_post
    fun _ _ h => h.2
  rcases h m asked hm with ⟨hreceipt, hJ⟩
  rcases Option.isSome_iff_exists.1 hreceipt with ⟨receipt, hsome⟩
  exact ⟨⟨receipt, hsome, trivial⟩, hJ⟩

theorem fetchRecord_calm {record : String} {φ : Snapshot → Prop} {σ : Session}
    (haddress : Reaches s "exportRfx")
    (h : ∀ m asked, I m asked →
      (∃ snapshot, Snapshot.ofReply record (w (.exchange (.showRecord record)) m).1 =
        .ok snapshot ∧ φ snapshot) ∧
        I (w (.exchange (.showRecord record)) m).2 (asked ++ [.exchange (.showRecord record)])) :
    Triple w (Run.At σ I) (fetchRecord s.platform record) (fun snapshot r => φ snapshot ∧ r.At σ I)
      Never := by
  intro r hr
  rcases h r.memory r.asked hr.2 with ⟨⟨snapshot, hshown, hφ⟩, hI⟩
  rcases haddress with ⟨url, hurl⟩
  have hcourse := fetchRecord_course (w := w) (p := s.platform) (r := r) record
  rw [show (Request.showRecord record).endpoint = "exportRfx" from rfl, hurl, hshown] at hcourse
  rw [hcourse]
  exact ⟨hφ, hr.1, hI⟩

/-- A platform that keeps the suppliers of a record in order: it shows the companies that it lists,
puts those behind them that are sent and not listed, or lists what is sent instead. The store takes
part whenever it is asked to. -/
structure Lists (s : Settings) (w : Surroundings ω) (companies : List Int) (record : String)
    (listed : ω → List Int) : Prop where
  creates : Reaches s "createRfx"
  exports : Reaches s "exportRfx"
  answers : ∀ m, (w .lookup m).1 = true
  commits : ∀ m, (w .commit m).1 = none
  aside : ∀ q m, q.IsLookup ∨ q = .commit → listed (w q m).2 = listed m
  shows : ∀ m, (∃ snapshot,
    Snapshot.ofReply record (w (.exchange (.showRecord record)) m).1 = .ok snapshot ∧
      snapshot.supplierItems.map Supplier.companyId? = (listed m).map some) ∧
    listed (w (.exchange (.showRecord record)) m).2 = listed m
  appends : ∀ m reference sent, listed m ⊆ companies → sent ⊆ companies → (listed m).Nodup →
    sent.Nodup →
      let request : Request := .write ⟨.createUpdate, listing record reference sent⟩
      (w (.exchange request) m).1.receipt?.isSome ∧
        listed (w (.exchange request) m).2 = appendNew (listed m) sent
  replaces : ∀ m reference sent, sent ⊆ companies → sent.Nodup →
    let request : Request := .write ⟨.updateReset, listing record reference sent⟩
    (w (.exchange request) m).1.receipt?.isSome ∧ listed (w (.exchange request) m).2 = sent

/-- The platform lists some companies. -/
def Listing (listed : ω → List Int) (companies : List Int) : Trail ω :=
  fun m _ => listed m = companies

/-- The platform lists some companies, and nothing was asked of it. -/
def Quiet (listed : ω → List Int) (companies : List Int) : Trail ω :=
  fun m asked => listed m = companies ∧ requestsOf asked = []

namespace Lists

variable {companies : List Int} {record : String} {listed : ω → List Int}

theorem calm (h : Lists s w companies record listed) (now : List Int) :
    Calm w (Listing listed now) where
  answers := fun m _ _ => h.answers m
  commits := fun m _ _ => h.commits m
  lookups := fun q hq m _ hm => (h.aside q m (.inl hq)).trans hm
  saves := fun q hq m _ hm => (h.aside q m (.inr hq)).trans hm

theorem calm_quiet (h : Lists s w companies record listed) (now : List Int) :
    Calm w (Quiet listed now) where
  answers := fun m _ _ => h.answers m
  commits := fun m _ _ => h.commits m
  lookups := by
    intro q hq m asked hm
    -- Neither a lookup nor a commit is a request.
    have hsilent : requestsOf [q] = [] :=
      requestsOf_of_isLookup fun q' hq' => (List.mem_singleton.1 hq') ▸ hq
    refine ⟨(h.aside q m (.inl hq)).trans hm.1, ?_⟩
    rw [requestsOf_append, hm.2, hsilent]
    rfl
  saves := by
    rintro q rfl m asked hm
    refine ⟨(h.aside .commit m (.inr rfl)).trans hm.1, ?_⟩
    rw [requestsOf_append, hm.2]
    rfl

theorem fetchRecord (h : Lists s w companies record listed) {σ : Session} {now : List Int} :
    Triple w (Run.At σ (Listing listed now)) (fetchRecord s.platform record)
      (fun snapshot r => snapshot.supplierItems.map Supplier.companyId? = now.map some ∧
        r.At σ (Listing listed now)) Never := by
  refine fetchRecord_calm h.exports fun m _ hm => ?_
  rcases h.shows m with ⟨⟨snapshot, hshown, hitems⟩, hlisted⟩
  rw [show listed m = now from hm] at hitems hlisted
  exact ⟨⟨snapshot, hshown, hitems⟩, hlisted⟩

theorem append (h : Lists s w companies record listed) {σ : Session} {now sent : List Int}
    {reference : Option String} (hnow : now ⊆ companies) (hsent : sent ⊆ companies)
    (hdistinct : now.Nodup) (hdistinct' : sent.Nodup) :
    Triple w (Run.At σ (Listing listed now))
      (writeRecord s.platform .createUpdate (listing record reference sent))
      (fun _ => Run.At σ (Listing listed (appendNew now sent))) Never := by
  refine writeRecord_made h.creates fun m _ hm => ?_
  have hlisted : listed m = now := hm
  have happends := h.appends m reference sent (hlisted ▸ hnow) hsent (hlisted ▸ hdistinct)
    hdistinct'
  rw [hlisted] at happends
  exact happends

theorem reset (h : Lists s w companies record listed) {σ : Session} {now sent : List Int}
    {reference : Option String} (hsent : sent ⊆ companies) (hdistinct : sent.Nodup) :
    Triple w (Run.At σ (Listing listed now))
      (writeRecord s.platform .updateReset (listing record reference sent))
      (fun _ => Run.At σ (Listing listed sent)) Never :=
  writeRecord_made h.creates fun m _ _ => h.replaces m reference sent hsent hdistinct

end Lists

section

variable {record : String} {listed : ω → List Int} {now : List Int} {link : Link}

theorem supplierChange_eq (hrecord : row.externalId = some record) (companies : List Int) :
    supplierChange row companies = listing record row.reference companies := by
  unfold supplierChange listing
  rw [hrecord]

theorem addSuppliers_platform (hl : Lists s w (saved.links.map (·.company)) record listed)
    (h : Placed s saved project event row) (hkeeper : keeper row = .ok .platform)
    (hrecord : row.externalId = some record) (hone : saved.OneToOne)
    (hlinked : Linked saved (refs.map (·.id))) (hnow : now ⊆ saved.links.map (·.company))
    (hdistinct : now.Nodup) (overwrite : Bool) (principal : String) :
    Triple w (Run.At (.fresh saved) (Listing listed now))
      (addSuppliers s project event refs overwrite principal)
      (fun _ => Run.At (.fresh saved) (Listing listed (appendNew (if overwrite then [] else now)
        (((refs.map (·.id)).eraseDups.filterMap saved.linkOf?).map (·.company))))) Never := by
  let sent : List Int := ((refs.map (·.id)).eraseDups.filterMap saved.linkOf?).map (·.company)
  have hsent : sent ⊆ saved.links.map (·.company) := List.map_subset _ found_subset
  have hsent' : sent.Nodup := (found_nodup hlinked).map_on fun a ha b hb hab =>
    hone.eq_of_company (found_subset hb) (found_subset ha) hab
  unfold addSuppliers addSuppliersTo
  apply Triple.bind_known (findEvent_calm (hl.calm now) h.names h.reads)
  rw [bind_assoc]
  apply Triple.bind_known (links_calm (hl.calm now) h.reads.1 hlinked s)
  rw [hkeeper, Action.ofExcept_ok, pure_bind, supplierChange_eq hrecord, bind_assoc]
  cases overwrite with
  | false =>
      refine Triple.bind (hl.append hnow hsent hdistinct hsent') fun receipt => ?_
      exact Triple.pure fun r h => h
  | true =>
      have hreset : appendNew [] sent = sent := nil_appendNew sent
      refine Triple.bind (hl.reset hsent hsent') fun receipt => ?_
      exact Triple.pure fun r h => hreset ▸ h

theorem filterMap_of_map_eq {α β : Type} {f : α → Option β} {xs : List α} {ys : List β}
    (h : xs.map f = ys.map some) : xs.filterMap f = ys := by
  have hid : (xs.map f).filterMap id = (ys.map some).filterMap id := congrArg _ h
  simpa [List.filterMap_map] using hid

theorem deleteSupplier_platform (hl : Lists s w (saved.links.map (·.company)) record listed)
    (h : Placed s saved project event row) (hkeeper : keeper row = .ok .platform)
    (hrecord : row.externalId = some record) (hlink : saved.linkOf? organisation = some link)
    (hnow : now ⊆ saved.links.map (·.company)) (hdistinct : now.Nodup)
    (hmem : link.company ∈ now) (principal : String) :
    Triple w (Run.At (.fresh saved) (Listing listed now))
      (deleteSupplier s project event organisation principal)
      (fun _ => Run.At (.fresh saved) (Listing listed (now.erase link.company))) Never := by
  apply deleteSupplier_linked (hl.calm now) h hkeeper hlink
  dsimp only
  unfold deleteListed
  rw [recordName_eq hrecord]
  apply Triple.bind hl.fetchRecord
  intro snapshot
  apply Triple.of_fact
  intro hitems
  rw [filterMap_of_map_eq hitems]
  dsimp only
  -- The company is listed, so the list is shorter without it.
  have hshorter : ¬(now.filter fun company => company != link.company).length = now.length := by
    rw [List.length_filter_eq_length_iff]
    exact fun hall => by simpa using hall _ hmem
  rw [if_neg hshorter, supplierChange_eq hrecord, ← hdistinct.erase_eq_filter]
  refine Triple.bind (hl.reset (fun c hc => hnow (List.mem_of_mem_erase hc))
    (hdistinct.erase _)) fun receipt => ?_
  exact Triple.pure fun r h => h

theorem deleteSupplier_platform_absent
    (hl : Lists s w (saved.links.map (·.company)) record listed)
    (h : Placed s saved project event row) (hkeeper : keeper row = .ok .platform)
    (hrecord : row.externalId = some record) (hlink : saved.linkOf? organisation = some link)
    (hmem : link.company ∉ now) :
    Triple w (Run.At (.fresh saved) (Listing listed now))
      (deleteSupplier s project event organisation principal)
      (fun _ _ => False) (Misses saved (Listing listed now)) := by
  apply deleteSupplier_linked (hl.calm now) h hkeeper hlink
  dsimp only
  unfold deleteListed
  rw [recordName_eq hrecord]
  apply Triple.bind hl.fetchRecord.of_never
  intro snapshot
  apply Triple.of_fact
  intro hitems
  rw [filterMap_of_map_eq hitems]
  dsimp only
  -- Nothing is taken off a list that does not have the company.
  have hsame : (now.filter fun company => company != link.company).length = now.length := by
    rw [List.length_filter_eq_length_iff]
    intro company hc
    have hne : company ≠ link.company := fun heq => hmem (heq ▸ hc)
    simpa using hne
  rw [if_pos hsame]
  exact Triple.fail fun r h => ⟨rfl, h⟩

/-! ## Listing -/

theorem listSuppliers_table {I : Trail ω} (hI : Calm w I) (h : Placed s saved project event row)
    (hkeeper : keeper row = .ok .table) :
    Triple w (Run.At (.fresh saved) I) (listSuppliers s project event)
      (fun refs r => refs.map (·.id) = row.organisations ∧ r.At (.fresh saved) I) Never := by
  unfold listSuppliers suppliersOf
  apply Triple.bind_known (findEvent_calm hI h.names h.reads)
  rw [hkeeper, Action.ofExcept_ok, pure_bind]
  refine Triple.pure fun r h => ⟨?_, h⟩
  rw [List.map_map]
  exact List.map_id _

/-- Listed suppliers are told by the organisations that their companies are. -/
theorem supplierRefs_calm {I : Trail ω} (hI : Calm w I) (hfits : saved.fits = true)
    (hone : saved.OneToOne) {ls : List Link} (hsub : ls ⊆ saved.links) {suppliers : List Supplier}
    (h : suppliers.map Supplier.companyId? = ls.map fun l => some l.company) :
    Triple w (Run.At (.fresh saved) I) (supplierRefs s record suppliers)
      (fun refs r => refs.map (·.id) = ls.map (·.organisation) ∧ r.At (.fresh saved) I) Never := by
  induction ls generalizing suppliers with
  | nil =>
      rw [List.map_eq_nil_iff.1 h]
      exact Triple.pure fun r h => ⟨rfl, h⟩
  | cons l ls ih =>
      cases suppliers with
      | nil => cases h
      | cons supplier rest =>
          rcases List.cons.inj h with ⟨hcompany, hrest⟩
          have hl : l ∈ saved.links := hsub List.mem_cons_self
          have hword : [l.company].all Schema.Codec.fitsWord = true := by
            simpa using hone.words l hl
          have hlink : saved.linkOfCompany? l.company = some l :=
            hone.linkOfCompany?_eq_some_iff.2 ⟨hl, rfl⟩
          have first : Triple w (Run.At (.fresh saved) I) (supplierRef s record supplier)
              (fun ref r => ref.id = l.organisation ∧ r.At (.fresh saved) I) Never := by
            unfold supplierRef
            rw [hcompany]
            apply Triple.bind_known (findLinkOfCompany_calm hI ⟨hfits, hword⟩ hlink s)
            exact Triple.pure fun r h => ⟨rfl, h⟩
          apply Triple.bind first
          intro ref
          apply Triple.of_fact
          intro href
          apply Triple.bind (ih (fun _ hmem => hsub (List.mem_cons_of_mem l hmem)) hrest)
          intro refs
          apply Triple.of_fact
          intro hrefs
          refine Triple.pure fun r h => ⟨?_, h⟩
          rw [List.map_cons, List.map_cons, href, hrefs]

/-- Whatever the platform shows of a record, its companies are told as the organisations that they
are linked with. -/
theorem listSuppliers_shown {I : Trail ω} (hI : Calm w I) (h : Placed s saved project event row)
    (hkeeper : keeper row = .ok .platform) (hone : saved.OneToOne) {ls : List Link}
    (hsub : ls ⊆ saved.links)
    (hshown : Triple w (Run.At (.fresh saved) I) (fetchRecord s.platform (recordName row))
      (fun snapshot r => snapshot.supplierItems.map Supplier.companyId? =
        (ls.map (·.company)).map some ∧ r.At (.fresh saved) I) Never) :
    Triple w (Run.At (.fresh saved) I) (listSuppliers s project event)
      (fun refs r => refs.map (·.id) = ls.map (·.organisation) ∧ r.At (.fresh saved) I) Never := by
  unfold listSuppliers suppliersOf
  apply Triple.bind_known (findEvent_calm hI h.names h.reads)
  rw [hkeeper, Action.ofExcept_ok, pure_bind]
  dsimp only
  apply Triple.bind hshown
  intro snapshot
  apply Triple.of_fact
  intro hitems
  have hitems' : snapshot.supplierItems.map Supplier.companyId? =
      ls.map fun l => some l.company := by
    rw [hitems, List.map_map]
    rfl
  exact supplierRefs_calm hI h.reads.1 hone hsub hitems'

theorem listSuppliers_platform (hl : Lists s w (saved.links.map (·.company)) record listed)
    (h : Placed s saved project event row) (hkeeper : keeper row = .ok .platform)
    (hrecord : row.externalId = some record) (hone : saved.OneToOne) {ls : List Link}
    (hsub : ls ⊆ saved.links) :
    Triple w (Run.At (.fresh saved) (Listing listed (ls.map (·.company))))
      (listSuppliers s project event)
      (fun refs _ => refs.map (·.id) = ls.map (·.organisation)) Never := by
  have hshown : Triple w (Run.At (.fresh saved) (Listing listed (ls.map (·.company))))
      (fetchRecord s.platform record)
      (fun snapshot r => snapshot.supplierItems.map Supplier.companyId? =
        (ls.map (·.company)).map some ∧
          r.At (.fresh saved) (Listing listed (ls.map (·.company)))) Never := hl.fetchRecord
  rw [← recordName_eq hrecord] at hshown
  exact (listSuppliers_shown (hl.calm _) h hkeeper hone hsub hshown).mono_post fun _ _ h => h.1

/-- Whatever list can be told, each of its companies is linked. -/
theorem supplierRefs_linked {I : Trail ω} (hI : w.Keeps Question.IsLookup I)
    (suppliers : List Supplier) :
    Triple w (Run.At (.fresh saved) I) (supplierRefs s record suppliers)
      (fun refs r => (∃ ls : List Link, ls ⊆ saved.links ∧
        suppliers.map Supplier.companyId? = ls.map (fun l => some l.company) ∧
          refs.map (·.id) = ls.map (·.organisation)) ∧ r.At (.fresh saved) I)
      (fun _ _ => True) := by
  induction suppliers with
  | nil => exact Triple.pure fun r h => ⟨⟨[], List.nil_subset _, rfl, rfl⟩, h⟩
  | cons supplier rest ih =>
      have first : Triple w (Run.At (.fresh saved) I) (supplierRef s record supplier)
          (fun ref r => (∃ l ∈ saved.links, supplier.companyId? = some l.company ∧
            ref.id = l.organisation) ∧ r.At (.fresh saved) I) (fun _ _ => True) := by
        unfold supplierRef
        cases hcompany : supplier.companyId? with
        | none => exact Triple.fail fun _ _ => trivial
        | some company =>
            apply Triple.bind ((findLinkOfCompany_triple hI s company).mono_fail
              fun _ _ _ => trivial)
            intro l
            apply Triple.of_fact
            intro (hl : saved.linkOfCompany? company = some l)
            have hsame : l.company = company := beq_iff_eq.1 (List.find?_some hl :)
            refine Triple.pure fun r h => ⟨⟨l, List.mem_of_find?_eq_some hl, ?_, rfl⟩, h⟩
            rw [hsame]
      apply Triple.bind first
      intro ref
      apply Triple.of_fact
      rintro ⟨l, hl, hcompany, href⟩
      apply Triple.bind ih
      intro refs
      apply Triple.of_fact
      rintro ⟨ls, hsub, hcompanies, hrefs⟩
      refine Triple.pure fun r h => ⟨⟨l :: ls, ?_, ?_, ?_⟩, h⟩
      · exact List.cons_subset.2 ⟨hl, hsub⟩
      · rw [List.map_cons, List.map_cons, hcompany, hcompanies]
      · rw [List.map_cons, List.map_cons, href, hrefs]

theorem listSuppliers_platform_linked (hl : Lists s w (saved.links.map (·.company)) record listed)
    (h : Placed s saved project event row) (hkeeper : keeper row = .ok .platform)
    (hrecord : row.externalId = some record) :
    Triple w (Run.At (.fresh saved) (Listing listed now)) (listSuppliers s project event)
      (fun refs _ => ∃ ls : List Link, ls ⊆ saved.links ∧ now = ls.map (·.company) ∧
        refs.map (·.id) = ls.map (·.organisation)) (fun _ _ => True) := by
  have hI := hl.calm now
  unfold listSuppliers suppliersOf
  apply Triple.bind_known (findEvent_calm hI h.names h.reads)
  rw [hkeeper, Action.ofExcept_ok, pure_bind]
  dsimp only
  rw [recordName_eq hrecord]
  apply Triple.bind hl.fetchRecord.of_never
  intro snapshot
  apply Triple.of_fact
  intro hitems
  refine (supplierRefs_linked hI.lookups _).mono_post ?_
  rintro refs r ⟨⟨ls, hsub, hcompanies, hrefs⟩, -⟩
  refine ⟨ls, hsub, ?_, hrefs⟩
  have hsome : now.map some = (ls.map (·.company)).map some := by
    rw [← hitems, hcompanies, List.map_map]
    rfl
  exact List.map_injective_iff.2 (fun _ _ => Option.some.inj) hsome

end

end Desk
end TenderDesk
