import TenderDesk.Desk.Surroundings

/-!
# Rehearsal — scripted surroundings

A `Scene` holds everything that surroundings may be asked for. Replies of the platform are handed
out in order; when none is left, the platform cannot be reached.
-/

namespace TenderDesk
namespace Desk

structure Assessment where
  id : Int
  status : String
  /-- Who alone may see the assessment; everybody if nobody is named. -/
  owner : Option String := none
  deriving DecidableEq, Repr

structure Scene where
  users : List (String × Option String) := []
  company : Option String := none
  /-- Organisations by framework and lot, with a slash between them. -/
  lots : List (String × List String) := []
  assessments : List Assessment := []
  nextAssessment : Int := 1
  newStatus : String := ""
  /-- New assessments belong to the principal that asked for them. -/
  ownCreated : Bool := false
  criteria : Json := .arr []
  now : Calendar.Moment
  replies : List Sourcing.Reply := []
  /-- Services that refuse, by name, with what they say. -/
  refusals : List (String × String) := []
  /-- How many lookups the store is going to leave without an answer. -/
  lookupFaults : Nat := 0
  /-- How the store refuses commits, if it does. -/
  commitFault : Option Refusal := none
  deriving DecidableEq, Repr

/-- The name of the service that a question is for. -/
def Question.service? : Question → Option String
  | .buyerUser _ => some "resolve_buyer_user_id"
  | .buyerCompany _ => some "resolve_buyer_company_id"
  | .lotSuppliers _ _ => some "get_suppliers_for_lot"
  | .newAssessment _ _ _ _ => some "create_empty_assessment"
  | .assessment _ _ => some "get_assessment"
  | .criteria _ _ => some "get_eval_criteria"
  | _ => none

namespace Scene

/-- What is told of an assessment, to those who may see it. -/
def reportOf (s : Scene) (id : Int) (principal : String) : Except Failure AssessmentReport :=
  match s.assessments.find? fun a => a.id == id with
  | none => .error (.reported .notFound s!"Assessment '{id}' not found")
  | some a =>
      if a.owner.all (· == principal) then .ok ⟨a.id, a.status⟩
      else .error (.reported .forbidden s!"Assessment '{id}' belongs to another user")

/-- The scene after a new assessment was opened in it. -/
def opened (s : Scene) (principal : String) : Scene :=
  let owner := if s.ownCreated then some principal else none
  { s with
    assessments := s.assessments ++ [⟨s.nextAssessment, s.newStatus, owner⟩]
    nextAssessment := s.nextAssessment + 1 }

/-- Sets the status of an assessment that is there. -/
def setStatus (s : Scene) (id : Int) (status : String) : Scene :=
  { s with assessments := s.assessments.map fun a => if a.id = id then { a with status } else a }

/-- What a service refuses with, if it refuses. -/
def refusal? (s : Scene) (q : Question) : Option Failure := do
  let name ← q.service?
  let entry ← s.refusals.find? fun e => e.1 == name
  some (.reported .platform entry.2)

/-- An answer of a service that may refuse. -/
def answered {α : Type} (s : Scene) (q : Question) (answer : Except Failure α) :
    Except Failure α × Scene :=
  match s.refusal? q with
  | some failure => (.error failure, s)
  | none => (answer, s)

def surroundings : Surroundings Scene
  | .exchange _, s =>
      match s.replies with
      | [] => (.failed .connection "no scripted response", s)
      | r :: rest => (r, { s with replies := rest })
  | .buyerUser p, s =>
      s.answered (.buyerUser p) (.ok ((s.users.find? fun u => u.1 == p).bind (·.2)))
  | .buyerCompany p, s => s.answered (.buyerCompany p) (.ok s.company)
  | .lotSuppliers framework lot, s =>
      s.answered (.lotSuppliers framework lot)
        (.ok (((s.lots.find? fun l => l.1 == framework ++ "/" ++ lot).map (·.2)).getD []))
  | .newAssessment framework lot kind p, s =>
      match s.refusal? (.newAssessment framework lot kind p) with
      | some failure => (.error failure, s)
      | none => (.ok s.nextAssessment, s.opened p)
  | .assessment id p, s => s.answered (.assessment id p) (s.reportOf id p)
  | .criteria project event, s => s.answered (.criteria project event) (.ok s.criteria)
  | .lookup, s =>
      match s.lookupFaults with
      | 0 => (true, s)
      | n + 1 => (false, { s with lookupFaults := n })
  | .commit, s => (s.commitFault, s)
  | .clock, s => (s.now, s)
  | .pause _, s => ((), s)

end Scene
end Desk
end TenderDesk
