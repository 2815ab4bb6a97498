import Mathlib.Data.List.Perm.Subperm
import TenderDesk.Proofs.Desk.History
import TenderDesk.Proofs.Desk.SupplierEdit

/-!
# Twins — two supplier lists that are kept in different places

The table keeps the suppliers of one event as selections, the platform keeps those of another as
companies of its record. Whoever changes both in the same way never sees a difference.

* `Holds` says that the table holds a list of links as selections; on the platform the same links
  are companies. One change makes the same of both (`Holds.here`, `Stored.there`), so they stay the
  same over one step (`Same.both`) and over all of them (`Same.after`).
* `twins_agree` draws the conclusion for any changes, one after the other.
-/

namespace TenderDesk
namespace Desk

open Sourcing

variable {ω α : Type}

/-! ## Endings of visits -/

/-- A call succeeds if it can be made, and misses something otherwise. -/
def EndsAs (made : Bool) (result : Except Failure α) : Prop :=
  if made then result.isOk = true
  else ∃ failure, result = .error failure ∧ failure.category = .notFound

section

variable {s : Settings} {w : Surroundings ω} {x : World ω} {call : Call} {I J : Trail ω}

theorem ends_of_success {saved : Store} (hI : I x.memory [])
    (h : Triple w (Run.At (.fresh x.saved) I) (call.perform s)
      (fun _ => Run.At (.fresh saved) J) Never) :
    EndsAs true (x.outcome s w call).1 ∧ (x.visit s w call).saved = saved ∧
      J (x.visit s w call).memory (x.outcome s w call).2.asked := by
  have htold : Triple w (Run.At (.fresh x.saved) I) (call.perform s)
      (fun _ r => True ∧ r.At (.fresh saved) J) Never :=
    h.mono_post fun _ _ hat => ⟨trivial, hat⟩
  rcases World.visit_of_triple x call hI htold with ⟨result, hok, -, hsaved, hJ⟩
  refine ⟨?_, hsaved, hJ⟩
  rw [hok]
  rfl

theorem ends_of_miss (hI : I x.memory [])
    (h : Triple w (Run.At (.fresh x.saved) I) (call.perform s) (fun _ _ => False)
      (Misses x.saved I)) :
    EndsAs false (x.outcome s w call).1 ∧ (x.visit s w call).saved = x.saved ∧
      I (x.visit s w call).memory (x.outcome s w call).2.asked := by
  have start : (Run.start x.saved x.memory).At (.fresh x.saved) I := ⟨rfl, hI⟩
  rcases h.fails start with ⟨failure, hresult, hcategory, hat⟩
  exact ⟨⟨failure, hresult, hcategory⟩, congrArg Session.saved hat.1, hat.2⟩

end

/-! ## Twins -/

/-- Two events whose suppliers are kept in different places. -/
structure Twins (ω : Type) where
  settings : Settings
  surroundings : Surroundings ω
  /-- The event whose suppliers the table keeps. -/
  project : Int
  event : String
  /-- The event whose suppliers the platform keeps. -/
  otherProject : Int
  otherEvent : String
  /-- Its record, and the companies that the platform lists there. -/
  record : String
  listed : ω → List Int

namespace Twins

variable {t : Twins ω} {x : World ω} {saved : Store} {row other : Row} {ls ls' : List Link}
variable {edit : SupplierEdit}

/-- A change of the suppliers in the table. -/
def here (t : Twins ω) (edit : SupplierEdit) : Call :=
  edit.call t.project t.event

/-- The same change of the suppliers on the platform. -/
def there (t : Twins ω) (edit : SupplierEdit) : Call :=
  edit.call t.otherProject t.otherEvent

def showHere (t : Twins ω) : Call :=
  .listSuppliers t.project t.event

def showThere (t : Twins ω) : Call :=
  .listSuppliers t.otherProject t.otherEvent

def visit (t : Twins ω) (x : World ω) (call : Call) : World ω :=
  x.visit t.settings t.surroundings call

def outcome (t : Twins ω) (x : World ω) (call : Call) : Except Failure call.Result × Run ω :=
  x.outcome t.settings t.surroundings call

/-- The world after a change was asked for here and there. -/
def both (t : Twins ω) (x : World ω) (edit : SupplierEdit) : World ω :=
  t.visit (t.visit x (t.here edit)) (t.there edit)

/-- The world after some changes. -/
def after (t : Twins ω) (x : World ω) (edits : List SupplierEdit) : World ω :=
  edits.foldl t.both x

/-- The organisations that the table tells of. -/
def toldHere (t : Twins ω) (x : World ω) : Except Failure (List String) :=
  (t.outcome x t.showHere).1.map fun refs : List SupplierRef => refs.map (·.id)

/-- The organisations that the platform tells of. -/
def toldThere (t : Twins ω) (x : World ω) : Except Failure (List String) :=
  (t.outcome x t.showThere).1.map fun refs : List SupplierRef => refs.map (·.id)

/-- The rows of both events, and who keeps their suppliers. -/
structure Stored (t : Twins ω) (saved : Store) (row other : Row) : Prop where
  numbered : saved.Numbered
  placed : Placed t.settings saved t.project t.event row
  keeper : keeper row = .ok .table
  distinct : row.organisations.Nodup
  otherPlaced : Placed t.settings saved t.otherProject t.otherEvent other
  otherKeeper : Desk.keeper other = .ok .platform
  recorded : other.externalId = some t.record

theorem Stored.ids_ne (h : t.Stored saved row other) : other.id ≠ row.id := by
  intro hid
  -- One row would be kept by both.
  have hsame : other = row :=
    h.numbered.eq_of_id_eq h.otherPlaced.names.mem h.placed.names.mem hid
  have hkeeper := h.otherKeeper
  rw [hsame, h.keeper] at hkeeper
  cases hkeeper

theorem Stored.reselect (h : t.Stored saved row other) {selections : List Selection}
    (hdistinct : (selections.map (·.organisation)).Nodup) (updatedBy : String) :
    t.Stored (saved.replace { row with selections, updatedBy }) { row with selections, updatedBy }
      other where
  numbered := h.numbered.replace _
  placed := h.placed.reselect h.numbered selections updatedBy
  keeper := keeper_congr h.keeper rfl
  distinct := hdistinct
  otherPlaced := h.otherPlaced.beside h.placed.names.mem rfl rfl h.ids_ne
  otherKeeper := h.otherKeeper
  recorded := h.recorded

/-- The table holds a list of links as the selections of one event. -/
structure Holds (t : Twins ω) (saved : Store) (ls : List Link) : Prop where
  oneToOne : saved.OneToOne
  linked : ls ⊆ saved.links
  stored : ∃ row other, t.Stored saved row other ∧ row.organisations = ls.map (·.organisation)

theorem Holds.distinct (h : t.Holds saved ls) : ls.Nodup := by
  rcases h.stored with ⟨row, other, hstored, horganisations⟩
  exact (horganisations ▸ hstored.distinct).of_map

theorem Stored.holds (h : t.Stored saved row other) (hone : saved.OneToOne)
    (hlinked : ls ⊆ saved.links) (hdistinct : ls.Nodup) {selections : List Selection}
    {updatedBy : String}
    (horganisations : selections.map (·.organisation) = ls.map (·.organisation)) :
    t.Holds (saved.replace { row with selections, updatedBy }) ls := by
  have hnames : (ls.map (·.organisation)).Nodup := hdistinct.map_on fun a ha b hb hab =>
    hone.eq_of_organisation (hlinked hb) (hlinked ha) hab
  rw [← horganisations] at hnames
  exact {
    oneToOne := ⟨hone.organisations, hone.companies, hone.words⟩
    linked := hlinked
    stored := ⟨_, other, h.reselect hnames updatedBy, horganisations⟩ }

/-- The platform does as it is told about the record of the other event. -/
abbrev Listed (t : Twins ω) (saved : Store) : Prop :=
  Lists t.settings t.surroundings (saved.links.map (·.company)) t.record t.listed

theorem Listed.congr {saved' : Store} (h : t.Listed saved) (hlinks : saved'.links = saved.links) :
    t.Listed saved' := by
  unfold Listed
  rw [hlinks]
  exact h

/-! ## Changes in the table -/

/-- What has become of a change in the table, which makes `made?` of the links if it can be made. -/
structure TakenHere (t : Twins ω) (x : World ω) (ls : List Link) (edit : SupplierEdit)
    (made? : Option (List Link)) : Prop where
  ends : EndsAs made?.isSome (t.outcome x (t.here edit)).1
  holds : t.Holds (t.visit x (t.here edit)).saved (made?.getD ls)
  links : (t.visit x (t.here edit)).saved.links = x.saved.links
  listed : t.listed (t.visit x (t.here edit)).memory = t.listed x.memory
  silent : requestsOf (t.outcome x (t.here edit)).2.asked = []

section

variable (h : t.Holds x.saved ls) (horganisations : row.organisations = ls.map (·.organisation))
include h horganisations

/-- Organisations and links change or do not change together. -/
theorem Holds.organisations?_eq (edit : SupplierEdit) :
    edit.organisations? x.saved row.organisations =
      (edit.links? x.saved ls).map fun ls' => ls'.map (·.organisation) :=
  horganisations ▸ edit.organisations?_map h.oneToOne h.linked

theorem Holds.missesHere (hmissed : edit.organisations? x.saved row.organisations = none)
    (hmiss : Triple t.surroundings
      (Run.At (.fresh x.saved) (Quiet t.listed (t.listed x.memory)))
      ((t.here edit).perform t.settings) (fun _ _ => False)
      (Misses x.saved (Quiet t.listed (t.listed x.memory)))) :
    t.TakenHere x ls edit (edit.links? x.saved ls) := by
  have hnone : edit.links? x.saved ls = none :=
    Option.map_eq_none_iff.1 ((h.organisations?_eq horganisations edit).symm.trans hmissed)
  rcases ends_of_miss ⟨rfl, rfl⟩ hmiss with ⟨hends, hsaved, hquiet⟩
  have hsame : (t.visit x (t.here edit)).saved = x.saved := hsaved
  rw [hnone]
  exact {
    ends := hends
    holds := by rw [hsame]; exact h
    links := by rw [hsame]
    listed := hquiet.1
    silent := hquiet.2 }

theorem Holds.changesHere (hstored : t.Stored x.saved row other) {selections : List Selection}
    {updatedBy : String}
    (hmade : edit.organisations? x.saved row.organisations = some (selections.map (·.organisation)))
    (hchange : Triple t.surroundings
      (Run.At (.fresh x.saved) (Quiet t.listed (t.listed x.memory)))
      ((t.here edit).perform t.settings)
      (fun _ => Run.At (.fresh (x.saved.replace { row with selections, updatedBy }))
        (Quiet t.listed (t.listed x.memory))) Never) :
    t.TakenHere x ls edit (edit.links? x.saved ls) := by
  rcases Option.map_eq_some_iff.1 ((h.organisations?_eq horganisations edit).symm.trans hmade) with
    ⟨ls', hsome, hselections⟩
  rcases edit.links?_wellFormed h.linked h.distinct hsome with ⟨hlinked, hdistinct⟩
  rcases ends_of_success ⟨rfl, rfl⟩ hchange with ⟨hends, hsaved, hquiet⟩
  have hsame : (t.visit x (t.here edit)).saved =
      x.saved.replace { row with selections, updatedBy } := hsaved
  rw [hsome]
  exact {
    ends := hends
    holds := by rw [hsame]; exact hstored.holds h.oneToOne hlinked hdistinct hselections.symm
    links := by rw [hsame]; rfl
    listed := hquiet.1
    silent := hquiet.2 }

end

theorem Holds.here (h : t.Holds x.saved ls) (hl : t.Listed x.saved) (edit : SupplierEdit) :
    t.TakenHere x ls edit (edit.links? x.saved ls) := by
  have hcalm := hl.calm_quiet (t.listed x.memory)
  rcases h.stored with ⟨row, other, hstored, horganisations⟩
  -- The table looks at organisations, so they tell the cases apart; the links follow them.
  cases edit with
  | add refs overwrite principal =>
      by_cases hlinked : Linked x.saved (refs.map (·.id))
      · have hchange := addSuppliers_table hcalm hstored.placed hstored.keeper hlinked overwrite
          principal
        rw [withSuppliers_eq] at hchange
        refine h.changesHere horganisations hstored ((if_pos hlinked).trans ?_) hchange
        have hselected := organisations_withSuppliers (nodup_eraseDups (refs.map (·.id))) row
          overwrite principal
        exact congrArg some hselected.symm
      · exact h.missesHere horganisations (if_neg hlinked)
          (addSuppliers_missing hcalm hstored.placed hlinked)
  | delete organisation principal =>
      cases hlink : x.saved.linkOf? organisation with
      | none =>
          -- What has no link is not among the links, and so not among the organisations.
          have hmissed := h.organisations?_eq horganisations (.delete organisation principal)
          rw [SupplierEdit.links?_delete_unlinked hlink] at hmissed
          exact h.missesHere horganisations hmissed
            (deleteSupplier_missing hcalm hstored.placed hlink)
      | some link =>
          by_cases hmem : organisation ∈ row.organisations
          · refine h.changesHere horganisations hstored ((if_pos hmem).trans ?_)
              (deleteSupplier_table hcalm hstored.placed hstored.keeper hlink hmem)
            exact congrArg some (organisations_withoutSupplier row organisation principal).symm
          · exact h.missesHere horganisations (if_neg hmem)
              (deleteSupplier_table_absent hcalm hstored.placed hstored.keeper hlink hmem)

/-! ## Changes on the platform -/

/-- What has become of a change on the platform. -/
structure TakenThere (t : Twins ω) (x : World ω) (ls : List Link) (edit : SupplierEdit)
    (made? : Option (List Link)) : Prop where
  ends : EndsAs made?.isSome (t.outcome x (t.there edit)).1
  saved : (t.visit x (t.there edit)).saved = x.saved
  listed : t.listed (t.visit x (t.there edit)).memory = (made?.getD ls).map (·.company)

section

variable (hlisted : t.listed x.memory = ls.map (·.company))
include hlisted

theorem missesThere
    (hmiss : Triple t.surroundings
      (Run.At (.fresh x.saved) (Listing t.listed (ls.map (·.company))))
      ((t.there edit).perform t.settings) (fun _ _ => False)
      (Misses x.saved (Listing t.listed (ls.map (·.company))))) :
    t.TakenThere x ls edit none := by
  rcases ends_of_miss hlisted hmiss with ⟨hends, hsaved, hafter⟩
  exact ⟨hends, hsaved, hafter⟩

theorem changesThere
    (hchange : Triple t.surroundings
      (Run.At (.fresh x.saved) (Listing t.listed (ls.map (·.company))))
      ((t.there edit).perform t.settings)
      (fun _ => Run.At (.fresh x.saved) (Listing t.listed (ls'.map (·.company)))) Never) :
    t.TakenThere x ls edit (some ls') := by
  rcases ends_of_success hlisted hchange with ⟨hends, hsaved, hafter⟩
  exact ⟨hends, hsaved, hafter⟩

end

theorem Stored.there (hstored : t.Stored x.saved row other) (hl : t.Listed x.saved)
    (hone : x.saved.OneToOne) (hlinked : ls ⊆ x.saved.links) (hdistinct : ls.Nodup)
    (hlisted : t.listed x.memory = ls.map (·.company)) (edit : SupplierEdit) :
    t.TakenThere x ls edit (edit.links? x.saved ls) := by
  have hcalm := hl.calm (ls.map (·.company))
  have hnow : ls.map (·.company) ⊆ x.saved.links.map (·.company) := List.map_subset _ hlinked
  have hnow' : (ls.map (·.company)).Nodup := hdistinct.map_on fun a ha b hb hab =>
    hone.eq_of_company (hlinked hb) (hlinked ha) hab
  have hplaced := hstored.otherPlaced
  have hkeeper := hstored.otherKeeper
  cases edit with
  | add refs overwrite principal =>
      by_cases hall : Linked x.saved (refs.map (·.id))
      · rw [SupplierEdit.links?_add hall]
        have hchange := addSuppliers_platform hl hplaced hkeeper hstored.recorded hone hall hnow
          hnow' overwrite principal
        have hkept : (if overwrite then [] else ls) ⊆ x.saved.links ∧
            (if overwrite then [] else ls).map (·.company) =
              if overwrite then [] else ls.map (·.company) := by
          cases overwrite with
          | true => exact ⟨List.nil_subset _, rfl⟩
          | false => exact ⟨hlinked, rfl⟩
        rw [← hkept.2, ← SupplierEdit.companies_appendNew hone hkept.1] at hchange
        exact changesThere hlisted hchange
      · rw [SupplierEdit.links?_add_unlinked hall]
        exact missesThere hlisted (addSuppliers_missing hcalm hplaced hall)
  | delete organisation principal =>
      cases hlink : x.saved.linkOf? organisation with
      | none =>
          rw [SupplierEdit.links?_delete_unlinked hlink]
          exact missesThere hlisted (deleteSupplier_missing hcalm hplaced hlink)
      | some link =>
          -- A company stands for one link only, so taking it off takes off that link.
          have hlinked' : link ∈ x.saved.links := (hone.linkOf?_eq_some_iff.1 hlink).1
          have hinj : ∀ l ∈ ls, l.company = link.company → l = link := fun l hl =>
            hone.eq_of_company hlinked' (hlinked hl)
          rw [SupplierEdit.links?_delete hlink]
          by_cases hmem : link ∈ ls
          · have hchange := deleteSupplier_platform hl hplaced hkeeper hstored.recorded hlink hnow
              hnow' (List.mem_map_of_mem hmem) principal
            rw [← map_erase_of_inj hinj] at hchange
            rw [if_pos hmem]
            exact changesThere hlisted hchange
          · have habsent : link.company ∉ ls.map (·.company) := by
              intro hcompany
              rcases List.mem_map.1 hcompany with ⟨l, hl, hsame⟩
              exact hmem (hinj l hl hsame ▸ hl)
            rw [if_neg hmem]
            exact missesThere hlisted (deleteSupplier_platform_absent hl hplaced hkeeper
              hstored.recorded hlink habsent)

/-! ## Lists that are told -/

theorem Stored.told_here (hstored : t.Stored x.saved row other) (hl : t.Listed x.saved) :
    t.toldHere x = .ok row.organisations ∧ requestsOf (t.outcome x t.showHere).2.asked = [] := by
  have hshow := listSuppliers_table (hl.calm_quiet (t.listed x.memory)) hstored.placed
    hstored.keeper
  have start : (Run.start x.saved x.memory).At (.fresh x.saved)
      (Quiet t.listed (t.listed x.memory)) := ⟨rfl, rfl, rfl⟩
  rcases hshow.succeeds start with ⟨refs, hresult, hnames, hquiet⟩
  have hok : (t.outcome x t.showHere).1 = .ok refs := hresult
  refine ⟨?_, hquiet.2.2⟩
  unfold toldHere
  rw [hok]
  exact congrArg Except.ok hnames

theorem Stored.told_there (hstored : t.Stored x.saved row other) (hl : t.Listed x.saved)
    (hone : x.saved.OneToOne) (hlinked : ls ⊆ x.saved.links)
    (hlisted : t.listed x.memory = ls.map (·.company)) :
    t.toldThere x = .ok (ls.map (·.organisation)) := by
  have hshow := listSuppliers_platform hl hstored.otherPlaced hstored.otherKeeper hstored.recorded
    hone hlinked
  have start : (Run.start x.saved x.memory).At (.fresh x.saved)
      (Listing t.listed (ls.map (·.company))) := ⟨rfl, hlisted⟩
  rcases hshow.succeeds start with ⟨refs, hresult, hnames⟩
  have hok : (t.outcome x t.showThere).1 = .ok refs := hresult
  unfold toldThere
  rw [hok]
  exact congrArg Except.ok hnames

/-- Whatever list the platform tells of, it is a list of links. -/
theorem Stored.links_of_told (hstored : t.Stored x.saved row other) (hl : t.Listed x.saved)
    {organisations : List String} (htold : t.toldThere x = .ok organisations) :
    ∃ ls : List Link, ls ⊆ x.saved.links ∧ t.listed x.memory = ls.map (·.company) ∧
      organisations = ls.map (·.organisation) := by
  have start : (Run.start x.saved x.memory).At (.fresh x.saved)
      (Listing t.listed (t.listed x.memory)) := ⟨rfl, rfl⟩
  unfold toldThere at htold
  cases hresult : (t.outcome x t.showThere).1 with
  | error failure =>
      rw [hresult] at htold
      cases htold
  | ok refs =>
      rw [hresult] at htold
      cases htold
      exact (listSuppliers_platform_linked hl hstored.otherPlaced hstored.otherKeeper
        hstored.recorded).of_ok start (Prod.ext hresult rfl)

/-! ## One change after the other -/

/-- The table and the platform hold the same links, each in its own way. -/
structure Same (t : Twins ω) (x : World ω) (ls : List Link) : Prop where
  holds : t.Holds x.saved ls
  listed : t.listed x.memory = ls.map (·.company)
  follows : t.Listed x.saved

/-- A change that both are asked for, made or missed by both. -/
structure Taken (t : Twins ω) (x : World ω) (ls : List Link) (edit : SupplierEdit) : Prop where
  here : t.TakenHere x ls edit (edit.links? x.saved ls)
  there : t.TakenThere (t.visit x (t.here edit)) ls edit (edit.links? x.saved ls)

theorem Same.taken (h : t.Same x ls) (edit : SupplierEdit) : t.Taken x ls edit := by
  have hhere := h.holds.here h.follows edit
  -- The first visit left the links and the list of the platform as they were.
  have hlinks := hhere.links
  rcases hhere.holds.stored with ⟨row, other, hstored, -⟩
  have hthere := hstored.there (h.follows.congr hlinks) hhere.holds.oneToOne
    (hlinks ▸ h.holds.linked) h.holds.distinct (hhere.listed.trans h.listed) edit
  rw [SupplierEdit.links?_congr hlinks] at hthere
  exact ⟨hhere, hthere⟩

theorem Same.both (h : t.Same x ls) (edit : SupplierEdit) :
    t.Same (t.both x edit) ((edit.links? x.saved ls).getD ls) ∧
      (t.both x edit).saved.links = x.saved.links := by
  have htaken := h.taken edit
  have hsaved : (t.both x edit).saved = (t.visit x (t.here edit)).saved := htaken.there.saved
  have hlinks : (t.both x edit).saved.links = x.saved.links := by
    rw [hsaved]
    exact htaken.here.links
  refine ⟨⟨?_, htaken.there.listed, h.follows.congr hlinks⟩, hlinks⟩
  rw [hsaved]
  exact htaken.here.holds

theorem Same.after (h : t.Same x ls) (edits : List SupplierEdit) :
    (t.after x edits).saved.links = x.saved.links ∧ ∃ ls', t.Same (t.after x edits) ls' ∧
      ls'.map (·.organisation) =
        SupplierEdit.organisationsAfter x.saved (ls.map (·.organisation)) edits := by
  -- Each change starts from the world that the one before it left.
  induction edits generalizing x ls with
  | nil => exact ⟨rfl, ls, h, rfl⟩
  | cons edit edits ih =>
      rcases h.both edit with ⟨hboth, hlinks⟩
      rcases ih hboth with ⟨hlinks', ls', hsame, hlist⟩
      refine ⟨hlinks'.trans hlinks, ls', hsame, ?_⟩
      -- The first change makes of the organisations what it makes of the links.
      have hmade := edit.organisations?_map h.holds.oneToOne h.holds.linked
      rw [hlist, SupplierEdit.organisationsAfter_congr hlinks]
      unfold SupplierEdit.organisationsAfter
      rw [List.foldl_cons, hmade]
      cases edit.links? x.saved ls <;> rfl

/-- Two events are told to have the same suppliers, one from the table and the other from the
platform. Then no changes tell them apart: each is made of both or missed by both, and afterwards
they have the same suppliers again. The platform hears nothing of the one, the table takes nothing
down of the other. -/
theorem twins_agree (hone : x.saved.OneToOne) (hstored : t.Stored x.saved row other)
    (hlisted : t.Listed x.saved) {organisations : List String}
    (hhere : t.toldHere x = .ok organisations) (hthere : t.toldThere x = .ok organisations)
    (edits : List SupplierEdit) :
    let now := SupplierEdit.organisationsAfter x.saved organisations edits
    let y := t.after x edits
    now.Nodup ∧ t.toldHere y = .ok now ∧ t.toldThere y = .ok now ∧
      requestsOf (t.outcome y t.showHere).2.asked = [] ∧
      ∀ edit : SupplierEdit,
        let made := (edit.organisations? x.saved now).isSome
        let z := t.visit y (t.here edit)
        EndsAs made (t.outcome y (t.here edit)).1 ∧ EndsAs made (t.outcome z (t.there edit)).1 ∧
          requestsOf (t.outcome y (t.here edit)).2.asked = [] ∧
          (t.visit z (t.there edit)).saved = z.saved := by
  intro now y
  rcases hstored.links_of_told hlisted hthere with ⟨ls, hlinked, hcompanies, horganisations⟩
  have hrow : row.organisations = organisations :=
    Except.ok.inj ((hstored.told_here hlisted).1.symm.trans hhere)
  have hsame : t.Same x ls :=
    ⟨⟨hone, hlinked, row, other, hstored, hrow.trans horganisations⟩, hcompanies, hlisted⟩
  rcases hsame.after edits with ⟨hlinks, ls', hafter, hlist⟩
  rw [← horganisations] at hlist
  rcases hafter.holds.stored with ⟨row', other', hstored', hrow'⟩
  have hnow : row'.organisations = now := hrow'.trans hlist
  have htold := hstored'.told_here hafter.follows
  rw [hnow] at htold
  have htold' := hstored'.told_there hafter.follows hafter.holds.oneToOne hafter.holds.linked
    hafter.listed
  rw [hlist] at htold'
  refine ⟨hnow ▸ hstored'.distinct, htold.1, htold', htold.2, fun edit => ?_⟩
  have hmade : (edit.organisations? x.saved now).isSome = (edit.links? y.saved ls').isSome := by
    have hmap := edit.organisations?_map hafter.holds.oneToOne hafter.holds.linked
    rw [hlist] at hmap
    rw [SupplierEdit.organisations?_congr hlinks.symm, hmap, Option.isSome_map]
  have htaken := hafter.taken edit
  intro made z
  rw [show made = _ from hmade]
  exact ⟨htaken.here.ends, htaken.there.ends, htaken.here.silent, htaken.there.saved⟩

end Twins

/-! ## A platform with two companies -/

/-- The lists that two companies can make. -/
def benchLists : List (List Int) :=
  [[], [7], [8], [7, 8], [8, 7]]

abbrev BenchList : Type :=
  { companies : List Int // companies ∈ benchLists }

/-- The list becomes another one that two companies can make. -/
def BenchList.become (listed : BenchList) (companies : List Int) : BenchList :=
  if h : companies ∈ benchLists then ⟨companies, h⟩ else listed

/-- A record that lists companies, as it is shown. -/
def benchShown (companies : List Int) : Reply :=
  let supplier (company : Int) : Json := .obj [("companyData", .obj [("id", .int company)])]
  .ofJson (.obj [("dataList", .arr [.obj [("suppliersList",
    .obj [("supplier", .arr (companies.map supplier))])]])])

/-- The companies that a record is sent with. -/
def benchSent (rfx : Rfx) : List Int :=
  ((rfx.suppliers.get?.bind (·.suppliers.get?)).getD []).filterMap Supplier.companyId?

/-- Surroundings that remember which companies a record lists. -/
def benchListing : Surroundings BenchList
  | .exchange (.write ⟨.updateReset, rfx⟩), listed =>
      (.ofReceipt benchDone, listed.become (benchSent rfx))
  | .exchange (.write ⟨_, rfx⟩), listed =>
      (.ofReceipt benchDone, listed.become (appendNew listed.val (benchSent rfx)))
  | .exchange (.showRecord _), listed => (benchShown listed.val, listed)
  | q, listed => ((bench q []).1, listed)

theorem benchSent_listing (record : String) (reference : Option String) (companies : List Int) :
    benchSent (listing record reference companies) = companies := by
  unfold benchSent listing SupplierList.ofCompanies
  simp [Schema.Slot.get?, List.filterMap_map, Supplier.companyId?, Function.comp_def]

theorem mem_benchLists {companies : List Int} (h : companies ⊆ [7, 8])
    (hdistinct : companies.Nodup) : companies ∈ benchLists := by
  have hlength : companies.length ≤ 2 := (List.subperm_of_subset hdistinct h).length_le
  match companies with
  | [] => decide
  | [a] =>
    have ha : a = 7 ∨ a = 8 := by simpa using h
    rcases ha with rfl | rfl <;> decide
  | [a, b] =>
    have hab : (a = 7 ∨ a = 8) ∧ (b = 7 ∨ b = 8) := by simpa using h
    rcases hab with ⟨rfl | rfl, rfl | rfl⟩ <;> first | decide | simp at hdistinct
  | _ :: _ :: _ :: _ => simp at hlength

/-- What is shown of a list is read as the list. -/
theorem benchShown_read : ∀ companies ∈ benchLists,
    (Snapshot.ofReply "rfq_1" (benchShown companies)).toOption.map
      (fun snapshot => snapshot.supplierItems.map Supplier.companyId?) =
        some (companies.map some) := by
  decide +kernel

theorem benchListing_lists : Lists benchSettings benchListing [7, 8] "rfq_1" Subtype.val where
  creates := ⟨"http://remote.test/create", by decide +kernel⟩
  exports := ⟨"http://remote.test/export", by decide +kernel⟩
  answers _ := rfl
  commits _ := rfl
  aside q m hq := by
    cases q with
    | exchange => rcases hq with hq | hq <;> cases hq
    | _ => rfl
  shows m := by
    refine ⟨?_, rfl⟩
    have hread := benchShown_read m.val m.property
    rcases Option.map_eq_some_iff.1 hread with ⟨snapshot, hsnapshot, hitems⟩
    refine ⟨snapshot, ?_, hitems⟩
    show Snapshot.ofReply "rfq_1" (benchShown m.val) = _
    cases hshown : Snapshot.ofReply "rfq_1" (benchShown m.val) with
    | ok shown =>
        rw [hshown] at hsnapshot
        exact congrArg Except.ok (Option.some.inj hsnapshot)
    | error failure =>
        rw [hshown] at hsnapshot
        cases hsnapshot
  appends m reference sent hnow hsent hdistinct hdistinct' := by
    have hroom : appendNew m.val sent ∈ benchLists := by
      refine mem_benchLists (fun company hcompany => ?_) (appendNew_nodup hdistinct hdistinct')
      rcases mem_appendNew.1 hcompany with hmem | hmem
      · exact hnow hmem
      · exact hsent hmem
    refine ⟨by rw [Option.isSome_iff_exists]; exact ⟨_, benchDone_sent⟩, ?_⟩
    show (m.become (appendNew m.val (benchSent (listing "rfq_1" reference sent)))).val = _
    rw [benchSent_listing]
    unfold BenchList.become
    rw [dif_pos hroom]
  replaces m reference sent hsent hdistinct := by
    have hroom : sent ∈ benchLists := mem_benchLists hsent hdistinct
    refine ⟨by rw [Option.isSome_iff_exists]; exact ⟨_, benchDone_sent⟩, ?_⟩
    show (m.become (benchSent (listing "rfq_1" reference sent))).val = _
    rw [benchSent_listing]
    unfold BenchList.become
    rw [dif_pos hroom]

/-- A store with two linked organisations and two events: one has an assessment, the other a
record. -/
def benchPair : Store where
  projects := [benchProject]
  links := [⟨"GB-1", 7⟩, ⟨"GB-2", 8⟩]
  rows := [
    { draft benchSettings benchProject "Pens" .fca false "buyer" with
      id := 1, assessment := some 1, selections := [⟨"GB-1", "buyer"⟩] },
    { draft benchSettings benchProject "Ink" .rfi false "buyer" with
      id := 2, externalId := some "rfq_1", reference := some "itt_1" }]

def benchTwins : Twins BenchList where
  settings := benchSettings
  surroundings := benchListing
  project := 1
  event := "ocds-b5fd17-1"
  otherProject := 1
  otherEvent := "ocds-b5fd17-2"
  record := "rfq_1"
  listed := Subtype.val

/-- A supplier is added to the one that both events have, with repetitions, and then that one is
taken off. -/
theorem Twins.twins_agree_bench :
    let x : World BenchList := ⟨benchPair, ⟨[7], by decide⟩⟩
    let edits : List SupplierEdit :=
      [.add [{ id := "GB-2" }, { id := "GB-1" }, { id := "GB-2" }] false "buyer",
        .delete "GB-1" "buyer"]
    let y := benchTwins.after x edits
    (∃ row other, benchTwins.Stored benchPair row other) ∧ benchPair.OneToOne ∧
      benchTwins.Listed benchPair ∧ benchTwins.toldHere x = .ok ["GB-1"] ∧
      benchTwins.toldThere x = .ok ["GB-1"] ∧ benchTwins.toldHere y = .ok ["GB-2"] ∧
      benchTwins.toldThere y = .ok ["GB-2"] := by
  intro x edits y
  have hone : benchPair.OneToOne := ⟨by decide, by decide, by decide +kernel⟩
  have hstored : benchTwins.Stored benchPair benchPair.rows[0] benchPair.rows[1] := {
    numbered := by unfold Store.Numbered; decide
    placed := ⟨⟨1, by decide +kernel, rfl⟩, by decide +kernel, by decide +kernel⟩
    keeper := by decide +kernel
    distinct := by decide
    otherPlaced := ⟨⟨2, by decide +kernel, rfl⟩, by decide +kernel, by decide +kernel⟩
    otherKeeper := by decide +kernel
    recorded := rfl }
  have hhere : benchTwins.toldHere x = .ok ["GB-1"] := by decide +kernel
  have hthere : benchTwins.toldThere x = .ok ["GB-1"] := by decide +kernel
  have hlast : SupplierEdit.organisationsAfter benchPair ["GB-1"] edits = ["GB-2"] := by
    decide +kernel
  have hagree := twins_agree hone hstored benchListing_lists hhere hthere edits
  rw [hlast] at hagree
  exact ⟨⟨_, _, hstored⟩, hone, benchListing_lists, hhere, hthere, hagree.2.1, hagree.2.2.1⟩

end Desk
end TenderDesk
