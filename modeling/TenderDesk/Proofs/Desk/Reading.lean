import TenderDesk.Desk.Documents
import TenderDesk.Proofs.Desk.Events

/-!
# Reading — what reading from the desk leaves alone

An action made of lookups, services and requests that only show something leaves the session where
it stands when it succeeds; when it fails, edits may be gone. What is known is left alone if it
stands the requests, and each lemma tells which those are.
-/

namespace TenderDesk
namespace Desk

open Sourcing Document

variable {ω : Type} {w : Surroundings ω} {σ : Session} {I : Trail ω}

/-! ## Suppliers -/

theorem recordName_eq {row : Row} {record : String} (hrecord : row.externalId = some record) :
    recordName row = record := by
  unfold recordName
  rw [hrecord]
  rfl

theorem supplierRef_triple (hl : w.Keeps Question.IsLookup I) (settings : Settings)
    (record : String) (supplier : Supplier) :
    Triple w (Run.At σ I) (supplierRef settings record supplier) (fun _ => Run.At σ I)
      (fun _ => Run.Near σ I) := by
  unfold supplierRef
  cases supplier.companyId? with
  | none => exact Triple.fail fun r h => h.near
  | some company =>
      apply Triple.bind (findLinkOfCompany_triple hl settings company)
      intro link
      exact Triple.pure fun r h => h.2

theorem supplierRefs_triple (hl : w.Keeps Question.IsLookup I) (settings : Settings)
    (record : String) (suppliers : List Supplier) :
    Triple w (Run.At σ I) (supplierRefs settings record suppliers) (fun _ => Run.At σ I)
      (fun _ => Run.Near σ I) := by
  induction suppliers with
  | nil => exact Triple.pure fun r h => h
  | cons supplier rest ih =>
      apply Triple.bind (supplierRef_triple hl settings record supplier)
      intro ref
      apply Triple.bind ih
      intro refs
      exact Triple.pure fun r h => h

theorem suppliersOf_triple {P : Request → Prop} (hI : w.Keeps (Question.Asks P) I)
    (settings : Settings) {row : Row}
    (hP : keeper row = .ok .platform → P (.showRecord (recordName row))) :
    Triple w (Run.At σ I) (suppliersOf settings row) (fun _ => Run.At σ I)
      (fun _ => Run.Near σ I) := by
  have hl : w.Keeps Question.IsLookup I := hI.mono fun _ => Question.asks_of_isLookup
  unfold suppliersOf
  apply Triple.bind Triple.ofExcept_knowing.near
  intro k
  apply Triple.of_fact
  intro hkeeper
  cases k with
  | table => exact Triple.pure fun r h => h
  | platform =>
      refine Triple.bind (fetchRecord_triple hI (hP hkeeper)).near fun snapshot => ?_
      exact supplierRefs_triple hl settings _ _

/-! ## Documents -/

theorem documentRecord_eq_ok_iff {row : Row} {record : String} :
    documentRecord row = .ok record ↔
      ∃ kind : EventKind, EventKind.ofName row.kind = .ok kind ∧ kind.owner = .platform ∧
        row.record? = some record := by
  unfold documentRecord
  cases EventKind.ofName row.kind with
  | error failure => simp
  | ok kind =>
      cases howner : kind.owner <;> cases hrecord : row.record? <;> simp [howner]

theorem documentsOf_triple {P : Request → Prop} (hI : w.Keeps (Question.Asks P) I)
    (settings : Settings) {row : Row}
    (hP : ∀ record, documentRecord row = .ok record → P (.showRecord record)) :
    Triple w (Run.At σ I) (documentsOf settings row) (fun _ => Run.At σ I)
      (fun _ => Run.At σ I) := by
  unfold documentsOf
  apply Triple.bind Triple.ofExcept_knowing
  intro record
  apply Triple.of_fact
  intro hrecord
  refine Triple.bind (fetchRecord_triple hI (hP record hrecord)) fun snapshot => ?_
  exact Triple.ofExcept_keeping

theorem fileOf_triple {P : Request → Prop} (hI : w.Keeps (Question.Asks P) I)
    (settings : Settings) {row : Row} {id : String}
    (hP : ∀ record key, documentRecord row = .ok record → Key.ofId id = .ok key →
      P (.showFile key)) :
    Triple w (Run.At σ I) (fileOf settings row id) (fun _ => Run.At σ I)
      (fun _ => Run.At σ I) := by
  unfold fileOf
  apply Triple.bind Triple.ofExcept_knowing
  intro record
  apply Triple.of_fact
  intro hrecord
  apply Triple.bind Triple.ofExcept_knowing
  intro key
  apply Triple.of_fact
  intro hkey
  exact fetchFile_triple hI (hP record key hrecord hkey)

/-! ## Events -/

theorem criteriaOf_triple (hs : w.Keeps Question.IsService I) (row : Row) (project : Int)
    (event : String) :
    Triple w (Run.At σ I) (criteriaOf row project event) (fun _ => Run.At σ I)
      (fun _ => Run.At σ I) := by
  unfold criteriaOf
  apply Triple.bind Triple.ofExcept_keeping
  intro kind
  split
  · refine Triple.bind (Triple.ask_keeping hs trivial) fun answer => ?_
    apply Triple.bind Triple.ofExcept_keeping
    intro criteria
    split
    · exact Triple.pure fun r h => h
    · exact Triple.fail fun r h => h
  · exact Triple.pure fun r h => h

theorem summaries_triple {P : Request → Prop} (hI : w.Keeps (Question.Asks P) I)
    (settings : Settings) (principal : String) {rows : List Row}
    (hP : ∀ row ∈ rows, ∀ record, row.record? = some record → P (.showRecord record)) :
    Triple w (Run.At σ I) (summaries settings principal rows) (fun _ => Run.At σ I)
      (fun _ => Run.At σ I) := by
  induction rows with
  | nil => exact Triple.pure fun r h => h
  | cons row rows ih =>
      apply Triple.bind (statusOf_triple hI settings (hP row List.mem_cons_self) principal)
      intro status
      apply Triple.bind Triple.ofExcept_keeping
      intro first
      apply Triple.bind (ih fun row' hrow' => hP row' (List.mem_cons_of_mem _ hrow'))
      intro rest
      exact Triple.pure fun r h => h

theorem getEvent_triple {P : Request → Prop} (hI : w.Keeps (Question.Asks P) I)
    (settings : Settings) {project : Int} {event : String}
    (hP : ∀ row record, Names settings.naming σ.working project event row →
      row.record? = some record → P (.showRecord record)) (principal : String) :
    Triple w (Run.At σ I) (getEvent settings project event principal) (fun _ => Run.At σ I)
      (fun _ => Run.Near σ I) := by
  have hl : w.Keeps Question.IsLookup I := hI.mono fun _ => Question.asks_of_isLookup
  have hs : w.Keeps Question.IsService I := hI.mono fun _ => Question.asks_of_isService
  unfold getEvent
  apply Triple.bind (findEvent_triple hl settings project event)
  intro row
  apply Triple.of_fact
  intro hrow
  apply Triple.bind (statusOf_triple hI settings (hP row · hrow) principal).near
  intro status
  apply Triple.bind (criteriaOf_triple hs row project event).near
  intro criteria
  apply Triple.bind Triple.ofExcept_keeping.near
  intro kind
  exact Triple.pure fun r h => h

theorem listEvents_triple {P : Request → Prop} (hI : w.Keeps (Question.Asks P) I)
    (settings : Settings) {project : Int}
    (hP : ∀ row ∈ σ.working.rowsOf project, ∀ record, row.record? = some record →
      P (.showRecord record)) (principal : String) :
    Triple w (Run.At σ I) (listEvents settings project principal) (fun _ => Run.At σ I)
      (fun _ => Run.Near σ I) := by
  have hl : w.Keeps Question.IsLookup I := hI.mono fun _ => Question.asks_of_isLookup
  unfold listEvents
  apply Triple.bind (findProject_triple hl settings project)
  intro _
  apply Triple.of_fact
  intro _
  apply Triple.bind (findEvents_triple hl settings project)
  intro rows
  apply Triple.of_fact
  rintro rfl
  exact (summaries_triple hI settings principal hP).near

end Desk
end TenderDesk
