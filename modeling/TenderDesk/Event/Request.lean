import TenderDesk.Event.Kind
import TenderDesk.Schema.Record

/-!
# Request — what callers ask for when they create or change an event

A kind that is asked for has to be a concrete one.
-/

namespace TenderDesk

open Schema

/-- The wish for a new event. -/
structure NewEvent where
  name : Option String := none
  kind : Option EventKind := none
  assessment : Option Int := none
  deriving DecidableEq, Repr, Inhabited

namespace NewEvent

def table : List (Entry NewEvent) :=
  [.nullable "name" .text (·.name) fun v r => { r with name := v },
   .nullable "event_type" EventKind.concreteCodec (·.kind) fun v r => { r with kind := v },
   .nullable "assessment_id" .whole (·.assessment) fun v r => { r with assessment := v }]

def codec : Codec NewEvent :=
  .record table {}

end NewEvent

/-- The wish for changes of an event; what is not given stays as it is. -/
structure EventEdit where
  name : Option String := none
  kind : Option EventKind := none
  assessment : Option Int := none
  target : Option Int := none
  deriving DecidableEq, Repr, Inhabited

namespace EventEdit

def table : List (Entry EventEdit) :=
  [.nullable "name" .text (·.name) fun v r => { r with name := v },
   .nullable "event_type" EventKind.concreteCodec (·.kind) fun v r => { r with kind := v },
   .nullable "assessment_id" .whole (·.assessment) fun v r => { r with assessment := v },
   .nullable "assessment_supplier_target" .whole (·.target) fun v r => { r with target := v }]

def codec : Codec EventEdit :=
  .record table {}

end EventEdit
end TenderDesk
