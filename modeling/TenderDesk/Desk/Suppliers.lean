import TenderDesk.Desk.Records
import TenderDesk.Desk.Table
import TenderDesk.Event.Assignment
import TenderDesk.Event.Report

/-!
# Suppliers — the supplier list of an event, kept by whoever owns it

Events with an assessment keep their suppliers as selections in the desk's own table. All others
keep them on their record of the platform, which can append to a list or replace it, but not take
one supplier off. An event without a kind of its own has no suppliers.
-/

namespace TenderDesk
namespace Desk

open Sourcing

variable {ω : Type}

/-- Where the suppliers of an event with an owner are kept. -/
inductive Keeper
  | table
  | platform
  deriving DecidableEq, Repr

/-- The keeper of the suppliers of an event. -/
def keeper (row : Row) : Except Failure Keeper :=
  match EventKind.ofName row.kind with
  | .ok kind =>
      match kind.owner with
      | .nobody => .error (.suppliersUnowned row.publicId)
      | .assessment => .ok .table
      | .platform => .ok .platform
  | .error failure => .error failure

/-- The id by which a row names its record in requests. -/
def recordName (row : Row) : String :=
  row.externalId.getD "None"

/-! ## Listing -/

/-- The organisation that a listed supplier is. -/
def supplierRef (settings : Settings) (record : String) (supplier : Supplier) :
    Action ω SupplierRef := do
  match supplier.companyId? with
  | none => .fail (.platform (.unidentifiedSupplier record))
  | some company =>
      let link ← findLinkOfCompany settings company
      pure { id := link.organisation, name := supplier.company.get?.bind (·.name.get?) }

def supplierRefs (settings : Settings) (record : String) :
    List Supplier → Action ω (List SupplierRef)
  | [] => pure []
  | supplier :: rest => do
      let ref ← supplierRef settings record supplier
      let refs ← supplierRefs settings record rest
      pure (ref :: refs)

def suppliersOf (settings : Settings) (row : Row) : Action ω (List SupplierRef) := do
  match ← .ofExcept (keeper row) with
  | .table => pure (row.organisations.map fun o => { id := o })
  | .platform =>
      let record ← fetchRecord settings.platform (recordName row)
      supplierRefs settings (recordName row) record.supplierItems

/-! ## Adding -/

/-- The change that sends a supplier list and nothing else. -/
def supplierChange (row : Row) (companies : List Int) : Rfx :=
  { Rfx.key row.externalId row.reference with suppliers := .set (.ofCompanies companies) }

/-- The selections of a row after organisations were added. -/
def withSuppliers (row : Row) (organisations : List String) (overwrite : Bool)
    (principal : String) : Row :=
  let kept := if overwrite then { row with selections := [] } else row
  { kept.select organisations principal with updatedBy := principal }

def addSuppliersTo (settings : Settings) (row : Row) (organisations : List String)
    (overwrite : Bool) (principal : String) : Action ω Unit := do
  -- Links come first, so an organisation without one is told before a missing kind.
  let links ← links settings organisations
  match ← .ofExcept (keeper row) with
  | .table =>
      stage (withSuppliers row (links.map (·.organisation)) overwrite principal)
      save
  | .platform =>
      let command := if overwrite then Command.updateReset else .createUpdate
      let _ ← writeRecord settings.platform command
        (supplierChange row (links.map (·.company)))
      pure ()

/-! ## Deleting -/

def deleteSelection (row : Row) (organisation principal : String) : Action ω Unit := do
  if row.organisations.contains organisation then
    stage { row with
      selections := row.selections.eraseP fun s => s.organisation == organisation
      updatedBy := principal }
    save
  else .fail (.supplierNotSelected organisation row.publicId)

/-- Sends the list again without the companies of an organisation. -/
def deleteListed (settings : Settings) (row : Row) (link : Link) : Action ω Unit := do
  let record ← fetchRecord settings.platform (recordName row)
  -- Listed suppliers that name no company are dropped on the way.
  let current := record.supplierItems.filterMap Supplier.companyId?
  let remaining := current.filter fun company => company != link.company
  if remaining.length = current.length then
    .fail (.supplierNotListed link.organisation row.publicId)
  else
    let _ ← writeRecord settings.platform .updateReset (supplierChange row remaining)
    pure ()

def deleteSupplierOf (settings : Settings) (row : Row) (organisation principal : String) :
    Action ω Unit := do
  -- The organisation has to be linked even where the table keeps the suppliers.
  let link ← findLink settings organisation
  match ← .ofExcept (keeper row) with
  | .table => deleteSelection row link.organisation principal
  | .platform => deleteListed settings row link

/-! ## By event id -/

def listSuppliers (settings : Settings) (project : Int) (event : String) :
    Action ω (List SupplierRef) := do
  let row ← findEvent settings project event
  suppliersOf settings row

/-- Adds suppliers, and gives them back as they were named. -/
def addSuppliers (settings : Settings) (project : Int) (event : String) (refs : List SupplierRef)
    (overwrite : Bool) (principal : String) : Action ω (List SupplierRef) := do
  let row ← findEvent settings project event
  addSuppliersTo settings row (refs.map (·.id)) overwrite principal
  pure refs

def deleteSupplier (settings : Settings) (project : Int) (event organisation principal : String) :
    Action ω Unit := do
  let row ← findEvent settings project event
  deleteSupplierOf settings row organisation principal

end Desk
end TenderDesk
