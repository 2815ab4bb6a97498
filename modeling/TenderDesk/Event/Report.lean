import TenderDesk.Event.Kind
import TenderDesk.Event.Status
import TenderDesk.Schema.Record

/-!
# Report — what callers are told about events and suppliers
-/

namespace TenderDesk

open Schema

structure EventSummary where
  id : String
  title : String
  stage : String := "tender"
  kind : EventKind
  status : Status
  reference : Option String := none
  assessment : Option Int := none
  deriving DecidableEq, Repr, Inhabited

namespace EventSummary

def table : List (Entry EventSummary) :=
  [.required "id" "id" .text (·.id) fun v r => { r with id := v },
   .required "title" "title" .text (·.title) fun v r => { r with title := v },
   .defaulting "event_stage" .text "tender" (·.stage) fun v r => { r with stage := v },
   .required "event_type" "event_type" EventKind.codec (·.kind) fun v r => { r with kind := v },
   .required "status" "status" Status.codec (·.status) fun v r => { r with status := v },
   .nullable "event_support_id" .text (·.reference) fun v r => { r with reference := v },
   .nullable "assessment_id" .whole (·.assessment) fun v r => { r with assessment := v }]

def codec : Codec EventSummary :=
  .record table default

end EventSummary

structure EventDetail where
  id : String
  title : String
  description : Option String := none
  kind : EventKind
  status : Status
  reference : Option String := none
  downSelected : Bool := false
  assessment : Option Int := none
  target : Option Int := none
  criteria : List (List (RawText × Json)) := []
  deriving DecidableEq, Repr, Inhabited

namespace EventDetail

def criteriaCodec : Codec (List (List (RawText × Json))) :=
  .list (.object .any)

def table : List (Entry EventDetail) :=
  [.required "id" "id" .text (·.id) fun v r => { r with id := v },
   .required "title" "title" .text (·.title) fun v r => { r with title := v },
   .nullable "description" .text (·.description) fun v r => { r with description := v },
   .required "event_type" "event_type" EventKind.codec (·.kind) fun v r => { r with kind := v },
   .required "status" "status" Status.codec (·.status) fun v r => { r with status := v },
   .nullable "event_support_id" .text (·.reference) fun v r => { r with reference := v },
   .defaulting "down_selected_suppliers" .flag false (·.downSelected)
    fun v r => { r with downSelected := v },
   .nullable "assessment_id" .whole (·.assessment) fun v r => { r with assessment := v },
   .nullable "assessment_supplier_target" .whole (·.target) fun v r => { r with target := v },
   .defaulting "criteria" criteriaCodec [] (·.criteria) fun v r => { r with criteria := v }]

def codec : Codec EventDetail :=
  .record table default

end EventDetail

/-- A supplier as callers name it. -/
structure SupplierRef where
  id : String
  name : Option String := none
  deriving DecidableEq, Repr, Inhabited

namespace SupplierRef

def table : List (Entry SupplierRef) :=
  [.required "id" "id" .text (·.id) fun v r => { r with id := v },
   .nullable "name" .text (·.name) fun v r => { r with name := v }]

def codec : Codec SupplierRef :=
  .record table default

end SupplierRef
end TenderDesk
