import TenderDesk.Schema.Codec
import TenderDesk.Text.LowerCase

/-!
# Status — where a tender stands

The sourcing platform reports a code that a table translates; an assessment reports a word of its
own, whose case does not matter.
-/

namespace TenderDesk

inductive Status
  | planning
  | planned
  | active
  | complete
  | cancelled
  | unsuccessful
  | withdrawn
  deriving DecidableEq, Repr, Inhabited

namespace Status

def all : List Status :=
  [.planning, .planned, .active, .complete, .cancelled, .unsuccessful, .withdrawn]

def name : Status → String
  | .planning => "planning"
  | .planned => "planned"
  | .active => "active"
  | .complete => "complete"
  | .cancelled => "cancelled"
  | .unsuccessful => "unsuccessful"
  | .withdrawn => "withdrawn"

/-- The status of a name, which is matched exactly. -/
def ofName? (s : String) : Option Status :=
  all.find? fun t => t.name == s

/-- The status of a word in any case. -/
def ofWord? (s : String) : Option Status :=
  ofName? (Text.lower s)

/-- A status code as the table of codes names it. -/
def codeText (code : Option Int) : String :=
  (code.map toString).getD "None"

def codec : Schema.Codec Status :=
  .choice ofName? name

@[simp] theorem ofName?_name (t : Status) : ofName? t.name = some t := by
  cases t <;> decide

end Status
end TenderDesk
