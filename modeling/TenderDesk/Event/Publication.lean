import TenderDesk.Calendar.Moment
import TenderDesk.Schema.Record
import TenderDesk.Failure

/-!
# Publication — the dates between which a published event is open

Dates are compared as points in time. `Publication.problems` names every rule that is broken, in
the order of `Publication.Rule`.
-/

namespace TenderDesk

open Schema Calendar

structure Publication where
  opening : Option Moment := none
  closing : Moment
  deriving DecidableEq, Repr, Inhabited

namespace Publication

def table : List (Entry Publication) :=
  [.nullable "start_date" .moment (·.opening) fun v p => { p with opening := v },
   .required "end_date" "end_date" .moment (·.closing) fun v p => { p with closing := v }]

def codec : Codec Publication :=
  .record table default

/-! ## Rules -/

inductive Rule
  | closesLater
  | opensNotBefore
  | opensBeforeClosing
  deriving DecidableEq, Repr

/-- A publication breaks a rule at a point in time. -/
def breaks (p : Publication) (now : Instant) : Rule → Bool
  | .closesLater => p.closing.instant ≤ now
  | .opensNotBefore => p.opening.any fun m => m.instant < now
  | .opensBeforeClosing => p.opening.any fun m => p.closing.instant ≤ m.instant

def openingText (p : Publication) : String :=
  (p.opening.map Moment.text).getD ""

/-- What is said about a broken rule. -/
def Rule.message (p : Publication) : Rule → String
  | .closesLater => "End date " ++ p.closing.text ++ " must be in the future"
  | .opensNotBefore => "Start date " ++ p.openingText ++ " must not be in the past"
  | .opensBeforeClosing =>
      "Start date " ++ p.openingText ++ " must be before end date " ++ p.closing.text

def broken (p : Publication) (now : Instant) : List Rule :=
  [.closesLater, .opensNotBefore, .opensBeforeClosing].filter (p.breaks now)

def problems (p : Publication) (now : Instant) : List String :=
  (p.broken now).map (Rule.message p)

/-- Refuses dates that break a rule, with all problems. -/
def check (p : Publication) (now : Instant) : Except Failure Unit :=
  match p.problems now with
  | [] => .ok ()
  | problems => .error (.datesRefused problems)

end Publication
end TenderDesk
