import TenderDesk.Proofs.Desk.Creating
import TenderDesk.Proofs.Desk.Leftovers
import TenderDesk.Proofs.Desk.Suppliers

/-!
# Resolution — organisations are looked up all at once, or none of them counts

* `resolved` is what a lookup of the links of organisations tells, as a function of the store.
* A store may return the links that it is asked for in any order. `linksFrom` takes them as they
  come, and is the lookup of the desk (`linksFrom_eq`), as long as no organisation has two links.
* `links_resolve`: either each organisation has a link, and the links are given in the order of the
  organisations, or those without a link are named. Then no supplier is added anywhere, be it to an
  event or to a new one.
-/

namespace TenderDesk
namespace Desk

open Sourcing

variable {ω : Type} {w : Surroundings ω} {s : Settings} {saved : Store}

/-! ## What a store tells -/

/-- The links of organisations, each once and in their order, or those that have none. -/
def resolved (organisations : List String) (store : Store) : Except Failure (List Link) :=
  match organisations.eraseDups.filter fun o => (store.linkOf? o).isNone with
  | [] => .ok (organisations.eraseDups.filterMap store.linkOf?)
  | missing => .error (.organisationsUnlinked missing)

theorem linkOf?_eq_none_iff {organisation : String} :
    saved.linkOf? organisation = none ↔ ∀ l ∈ saved.links, l.organisation ≠ organisation := by
  unfold Store.linkOf?
  simp

theorem linked_iff_exists {organisations : List String} :
    Linked saved organisations ↔
      ∀ o ∈ organisations, ∃ l ∈ saved.links, l.organisation = o := by
  unfold Linked Store.linkOf?
  simp

theorem linked_iff_filter {organisations : List String} :
    (organisations.eraseDups.filter fun o => (saved.linkOf? o).isNone) = [] ↔
      Linked saved organisations := by
  rw [← linked_eraseDups, List.filter_eq_nil_iff]
  unfold Linked
  simp [Option.isSome_iff_ne_none]

theorem resolved_of_linked {organisations : List String} (h : Linked saved organisations) :
    resolved organisations saved = .ok (organisations.eraseDups.filterMap saved.linkOf?) := by
  unfold resolved
  rw [linked_iff_filter.2 h]

theorem resolved_of_not_linked {organisations : List String} (h : ¬Linked saved organisations) :
    resolved organisations saved = .error (.organisationsUnlinked
      (organisations.eraseDups.filter fun o => (saved.linkOf? o).isNone)) := by
  unfold resolved
  split
  · rename_i hnil
    exact absurd (linked_iff_filter.1 hnil) h
  · rfl

/-- Among the links that were found for organisations, those are missing that have none. -/
theorem contains_found (organisations : List String) {organisation : String}
    (h : organisation ∈ organisations) :
    ((organisations.filterMap saved.linkOf?).map (·.organisation)).contains organisation =
      (saved.linkOf? organisation).isSome := by
  rw [Bool.eq_iff_iff, List.contains_iff_mem, Option.isSome_iff_exists]
  constructor
  · intro hmem
    obtain ⟨l, hl, hname⟩ := List.mem_map.1 hmem
    obtain ⟨o, -, ho⟩ := List.mem_filterMap.1 hl
    have hsame : o = organisation := (organisation_of_linkOf? ho).symm.trans hname
    exact ⟨l, hsame ▸ ho⟩
  · rintro ⟨l, hl⟩
    exact List.mem_map.2 ⟨l, List.mem_filterMap.2 ⟨organisation, h, hl⟩, organisation_of_linkOf? hl⟩

/-! ## The lookup -/

/-- Lookups are alike when what follows them makes the same of what the session sees. -/
theorem look_bind_congr {α β γ : Type} {words : List Int} {read : Store → α} {read' : Store → β}
    {next : α → Action ω γ} {next' : β → Action ω γ} {r : Run ω}
    (h : ∀ r', next (read r.session.working) w r' = next' (read' r.session.working) w r') :
    (look s words read >>= next) w r = (look s words read' >>= next') w r := by
  rw [Action.bind_apply, Action.bind_apply]
  cases hblocked : r.session.blocked with
  | some message => rw [look_blocked hblocked, look_blocked hblocked]
  | none =>
      rw [look_apply hblocked, look_apply hblocked]
      unfold Run.lookedUp Session.lookedUp
      cases (w.wait s.attempts r.memory).answered with
      | false => rfl
      | true =>
          cases r.session.working.fits with
          | false => rfl
          | true =>
              cases words.all Schema.Codec.fitsWord with
              | false => rfl
              | true => exact h _

theorem isEmpty_eraseDups {organisations : List String} (h : organisations ≠ []) :
    organisations.eraseDups.isEmpty = false := by
  cases organisations with
  | nil => exact absurd rfl h
  | cons o os =>
      rw [List.eraseDups_cons]
      rfl

/-- The links of some organisations are told by one lookup. -/
theorem links_eq {organisations : List String} (h : organisations ≠ []) (r : Run ω) :
    links s organisations w r =
      (look s [] (resolved organisations) >>= Action.ofExcept) w r := by
  unfold links
  dsimp only
  rw [isEmpty_eraseDups h]
  refine look_bind_congr fun r' => ?_
  have hmissing : (organisations.eraseDups.filter fun o =>
      !((organisations.eraseDups.filterMap r.session.working.linkOf?).map
        (·.organisation)).contains o) =
      organisations.eraseDups.filter fun o => (r.session.working.linkOf? o).isNone := by
    apply List.filter_congr
    intro o ho
    rw [contains_found _ ho, Option.not_isSome]
  rw [hmissing]
  unfold resolved
  generalize organisations.eraseDups.filter _ = missing
  cases missing <;> rfl

theorem links_nil (r : Run ω) : links s [] w r = (.ok [], r) :=
  rfl

/-- The links of organisations where the store takes its time but can be read. -/
theorem links_course {r : Run ω} (hr : r.session = .fresh saved) (hfits : saved.fits = true)
    (hanswered : (w.wait s.attempts r.memory).answered = true) (organisations : List String) :
    (links s organisations w r).1 = resolved organisations saved := by
  by_cases hempty : organisations = []
  · rw [hempty, links_nil]
    rfl
  · have hlook := look_course (w := w) hr s [] (resolved organisations)
    rw [Store.lookUp_eq_ok_iff.2 ⟨hanswered, ⟨hfits, rfl⟩, rfl⟩] at hlook
    rw [links_eq hempty, Action.bind_of_ok hlook, ofExcept_apply]

/-! ## Rows in any order -/

/-- Looks the links of organisations up in a store that returns them in an order of its own. Where
two of them name one organisation, the last one counts. -/
def linksFrom (order : List Link → List Link) (settings : Settings) (organisations : List String) :
    Action ω (List Link) := do
  let distinct := organisations.eraseDups
  let rows ←
    if distinct.isEmpty then pure []
    else look settings [] fun s => order (s.links.filter fun l => distinct.contains l.organisation)
  let linkOf? := fun o => rows.reverse.find? fun l => l.organisation == o
  match distinct.filter fun o => (linkOf? o).isNone with
  | [] => pure (distinct.filterMap linkOf?)
  | missing => .fail (.organisationsUnlinked missing)

/-- As long as no organisation has two links, it does not matter which order they come in. -/
theorem find?_of_returned {rows : List Link} {distinct : List String}
    (hunique : (saved.links.map (·.organisation)).Nodup)
    (hrows : rows.Perm (saved.links.filter fun l => distinct.contains l.organisation))
    {organisation : String} (h : organisation ∈ distinct) :
    rows.reverse.find? (fun l => l.organisation == organisation) = saved.linkOf? organisation := by
  have hreturned : (rows.reverse.map (·.organisation)).Nodup := by
    have hperm := ((List.reverse_perm rows).trans hrows).map (·.organisation)
    refine hperm.nodup_iff.2 (hunique.sublist ?_)
    exact List.filter_sublist.map _
  apply Option.ext
  intro l
  rw [find?_eq_some_iff_of_nodup hreturned]
  unfold Store.linkOf?
  rw [find?_eq_some_iff_of_nodup hunique, List.mem_reverse, hrows.mem_iff, List.mem_filter]
  constructor
  · rintro ⟨⟨hmem, -⟩, hname⟩
    exact ⟨hmem, hname⟩
  · rintro ⟨hmem, rfl⟩
    exact ⟨⟨hmem, List.contains_iff_mem.2 h⟩, rfl⟩

theorem linksFrom_eq {order : List Link → List Link} (horder : ∀ ls, (order ls).Perm ls)
    {r : Run ω} (hunique : (r.session.working.links.map (·.organisation)).Nodup)
    (organisations : List String) :
    linksFrom order s organisations w r = links s organisations w r := by
  by_cases hempty : organisations = []
  · subst hempty
    rfl
  rw [links_eq hempty]
  unfold linksFrom
  dsimp only
  rw [isEmpty_eraseDups hempty]
  refine look_bind_congr fun r' => ?_
  have hfound := fun o (ho : o ∈ organisations.eraseDups) => find?_of_returned hunique (horder _) ho
  have hmissing := List.filter_congr fun o ho => congrArg Option.isNone (hfound o ho)
  rw [hmissing, List.filterMap_congr hfound]
  unfold resolved
  generalize organisations.eraseDups.filter _ = missing
  cases missing <;> rfl

/-! ## Calls with an organisation that has no link -/

/-- Nothing was asked of the platform, and no commit of the store. -/
def Idle : Trail ω :=
  fun _ asked => requestsOf asked = [] ∧ .commit ∉ asked

theorem idle_keeps : w.Keeps Question.IsLookup (Idle : Trail ω) := by
  rintro q hq m asked ⟨hnone, hcommit⟩
  refine ⟨?_, ?_⟩
  · rw [requestsOf_append, hnone, requestsOf_of_isLookup (fun q' hq' => ?_)]
    · rfl
    · rw [List.mem_singleton.1 hq']
      exact hq
  · intro hmem
    rcases List.mem_append.1 hmem with hmem | hmem
    · exact hcommit hmem
    · rw [← List.mem_singleton.1 hmem] at hq
      exact hq

theorem addSuppliers_unlinked {refs : List SupplierRef}
    (h : ¬Linked saved (refs.map (·.id))) (project : Int) (event : String) (overwrite : Bool)
    (principal : String) :
    Triple w (Run.At (.fresh saved) Idle) (addSuppliers s project event refs overwrite principal)
      (fun _ _ => False) (fun _ => Run.At (.fresh saved) Idle) := by
  unfold addSuppliers addSuppliersTo
  apply Triple.bind ((findEvent_triple idle_keeps s project event).mono_fail
    fun _ _ h => h.at_fresh)
  intro row
  apply Triple.of_fact
  intro _
  rw [bind_assoc]
  apply Triple.bind ((links_finds idle_keeps s _).mono_fail fun _ _ h => h.at_fresh)
  intro found
  apply Triple.of_fact
  exact fun hfound => absurd hfound.1 h

/-- A new event whose lot has a supplier without a link is not added, and nothing is opened. -/
theorem createEvent_unlinked {m : ω} {project : Int} {request : NewEvent} {downSelected : Bool}
    {principal framework lot organisation : String} {organisations : List String}
    (hmem : organisation ∈ organisations) (hnone : saved.linkOf? organisation = none) :
    let end_ := (Call.createEvent project request downSelected principal).visit s w saved m
    w.Tells m end_.2.asked (.lotSuppliers framework lot) (.ok organisations) →
      end_.1.isOk = false ∧ end_.2.session = .fresh saved ∧ requestsOf end_.2.asked = [] := by
  intro end_ htold
  have wrote : (Run.start saved m).At (.fresh saved) (Wrote w m []) := ⟨rfl, rfl, rfl⟩
  have prepared : (Run.start saved m).At (.fresh saved) (Prepared w m saved) := by
    refine ⟨rfl, ⟨rfl, fun _ h => absurd h List.not_mem_nil⟩, rfl, ?_⟩
    rintro q answer ⟨before, after, hnil, -⟩
    cases before <;> cases hnil
  have vets := createEvent_vets s w m saved project request downSelected principal
  have adds := createEvent_adds s w m saved project request downSelected principal
  have obstacle : Obstacle s w m saved project request end_.2.asked := .unlinked htold hmem hnone
  cases hresult : end_.1 with
  | ok told => exact absurd obstacle (vets.of_ok prepared (Prod.ext hresult rfl)).no_obstacle
  | error failure =>
      refine ⟨rfl, adds.of_error wrote (Prod.ext hresult rfl), ?_⟩
      rcases vets.of_error prepared (Prod.ext hresult rfl) with hunopened | hcleared
      · apply List.eq_nil_iff_forall_not_mem.2
        intro request' hrequest
        exact hunopened.2 _ (mem_requestsOf.1 hrequest) trivial
      · exact absurd obstacle hcleared.no_obstacle

/-! ## All lookups -/

/-- In a store where no organisation has two links, organisations are resolved exactly when each has
a link: the links are given once each, in the order in which the organisations come first, whatever
order the store returns them in. Otherwise all organisations without a link are named in that order.
No supplier is added to an event when one of those to be added has no link, and no event is created
when one of its lot has none: the table stays as it is, and nothing is asked of the platform. -/
theorem links_resolve (s : Settings) (w : Surroundings ω) (saved : Store)
    (hunique : (saved.links.map (·.organisation)).Nodup) :
    (∀ (r : Run ω) (organisations : List String), r.session = .fresh saved →
      saved.fits = true → (w.wait s.attempts r.memory).answered = true →
        let told := (links s organisations w r).1
        (told.isOk = true ↔ ∀ o ∈ organisations, ∃ l ∈ saved.links, l.organisation = o) ∧
          (∀ found, told = .ok found →
            found.map (·.organisation) = organisations.eraseDups ∧ found ⊆ saved.links) ∧
          ∀ failure, told = .error failure → failure.category = .notFound ∧
            failure = .organisationsUnlinked (organisations.eraseDups.filter fun o =>
              ∀ l ∈ saved.links, l.organisation ≠ o)) ∧
      (∀ (order : List Link → List Link) (r : Run ω) (organisations : List String),
        (∀ ls, (order ls).Perm ls) → r.session = .fresh saved →
          linksFrom order s organisations w r = links s organisations w r) ∧
      (∀ (m : ω) (project : Int) (event : String) (refs : List SupplierRef) (overwrite : Bool)
          (principal : String), (∃ ref ∈ refs, ∀ l ∈ saved.links, l.organisation ≠ ref.id) →
        let end_ := (Call.addSuppliers project event refs overwrite principal).visit s w saved m
        end_.1.isOk = false ∧ end_.2.session = .fresh saved ∧ .commit ∉ end_.2.asked ∧
          requestsOf end_.2.asked = []) ∧
      ∀ (m : ω) (project : Int) (request : NewEvent) (downSelected : Bool)
          (principal framework lot : String) (organisations : List String),
        let end_ := (Call.createEvent project request downSelected principal).visit s w saved m
        w.Tells m end_.2.asked (.lotSuppliers framework lot) (.ok organisations) →
          (∃ o ∈ organisations, ∀ l ∈ saved.links, l.organisation ≠ o) →
            end_.1.isOk = false ∧ end_.2.session = .fresh saved ∧
              requestsOf end_.2.asked = [] := by
  refine ⟨fun r organisations hr hfits hanswered => ?_, ?_, ?_, ?_⟩
  · intro told
    have htold : told = resolved organisations saved :=
      links_course hr hfits hanswered organisations
    rw [← linked_iff_exists]
    by_cases hlinked : Linked saved organisations
    · rw [htold, resolved_of_linked hlinked]
      refine ⟨⟨fun _ => hlinked, fun _ => rfl⟩, fun found hfound => ?_, nofun⟩
      cases hfound
      exact ⟨map_organisation_of_linked (linked_eraseDups.2 hlinked), found_subset⟩
    · rw [htold, resolved_of_not_linked hlinked]
      refine ⟨⟨nofun, fun h => absurd h hlinked⟩, nofun, fun failure hfailure => ?_⟩
      cases hfailure
      refine ⟨rfl, congrArg Failure.organisationsUnlinked (List.filter_congr fun o _ => ?_)⟩
      rw [Bool.eq_iff_iff, Option.isNone_iff_eq_none, linkOf?_eq_none_iff, decide_eq_true_iff]
  · intro order r organisations horder hr
    refine linksFrom_eq horder ?_ organisations
    rw [hr]
    exact hunique
  · rintro m project event refs overwrite principal ⟨ref, href, hnone⟩ end_
    have hunlinked : ¬Linked saved (refs.map (·.id)) := by
      intro hlinked
      obtain ⟨l, hl, hname⟩ := linked_iff_exists.1 hlinked ref.id (List.mem_map_of_mem href)
      exact hnone l hl hname
    have triple := addSuppliers_unlinked (w := w) (s := s) hunlinked project event overwrite
      principal
    have start : (Run.start saved m).At (.fresh saved) Idle := ⟨rfl, rfl, List.not_mem_nil⟩
    cases hresult : end_.1 with
    | ok refs' => exact absurd (triple.of_ok start (Prod.ext hresult rfl)) id
    | error failure =>
        obtain ⟨hsession, hnone, hcommit⟩ := triple.of_error start (Prod.ext hresult rfl)
        exact ⟨rfl, hsession, hcommit, hnone⟩
  · rintro m project request downSelected principal framework lot organisations end_ htold
      ⟨o, ho, hnone⟩
    exact createEvent_unlinked ho (linkOf?_eq_none_iff.2 hnone) htold

/-- A store with two links and one event. -/
def pairedStore : Store :=
  { bareStore with links := [⟨"GB-1", 1⟩, ⟨"GB-2", 2⟩] }

/-- A list that names an organisation twice is resolved in its own order, and of one with strangers
each stranger is named once. A stranger keeps the others from being added. -/
theorem links_resolve_strangers :
    let r : Run Scene := .start pairedStore bareScene
    let told := fun organisations => (links benchSettings organisations Scene.surroundings r).1
    let end_ := (Call.addSuppliers 1 "ocds-b5fd17-1" [{ id := "GB-1" }, { id := "GB-9" }] true
      "buyer").visit benchSettings Scene.surroundings pairedStore bareScene
    (told ["GB-2", "GB-1", "GB-2"]).map (·.map (·.organisation)) = .ok ["GB-2", "GB-1"] ∧
      told ["GB-9", "GB-2", "GB-9", "GB-8"] = .error (.organisationsUnlinked ["GB-9", "GB-8"]) ∧
      linksFrom List.reverse benchSettings ["GB-2", "GB-1"] Scene.surroundings r =
        links benchSettings ["GB-2", "GB-1"] Scene.surroundings r ∧
      end_.2.session = .fresh pairedStore ∧ requestsOf end_.2.asked = [] := by
  intro r told end_
  have hunique : (pairedStore.links.map (·.organisation)).Nodup := by decide
  obtain ⟨hresolved, horder, hadding, -⟩ :=
    links_resolve benchSettings Scene.surroundings pairedStore hunique
  have hfits : pairedStore.fits = true := by decide +kernel
  obtain ⟨-, hfound, -⟩ := hresolved r ["GB-2", "GB-1", "GB-2"] rfl hfits rfl
  obtain ⟨-, -, hmissing⟩ := hresolved r ["GB-9", "GB-2", "GB-9", "GB-8"] rfl hfits rfl
  refine ⟨?_, ?_, horder List.reverse r _ List.reverse_perm rfl, ?_⟩
  · cases htold : told ["GB-2", "GB-1", "GB-2"] with
    | ok found => exact congrArg Except.ok (hfound found htold).1
    | error failure =>
        have hok : (told ["GB-2", "GB-1", "GB-2"]).isOk = true := by decide +kernel
        rw [htold] at hok
        cases hok
  · cases htold : told ["GB-9", "GB-2", "GB-9", "GB-8"] with
    | ok found =>
        have hok : (told ["GB-9", "GB-2", "GB-9", "GB-8"]).isOk = false := by decide +kernel
        rw [htold] at hok
        cases hok
    | error failure =>
        rw [(hmissing failure htold).2]
        decide +kernel
  · have hkept := hadding bareScene 1 "ocds-b5fd17-1" [{ id := "GB-1" }, { id := "GB-9" }] true
      "buyer" ⟨{ id := "GB-9" }, by decide, by decide⟩
    exact ⟨hkept.2.1, hkept.2.2.2⟩

end Desk
end TenderDesk
