import TenderDesk.Calendar.Moment
import TenderDesk.Failure
import TenderDesk.Sourcing.Exchange

/-!
# Surroundings — everything that a desk has to ask for

A desk reaches the world outside of its own table by questions only: requests to the platform, the
services of colleagues, the clock, pauses, and whether the store takes part at all.

* `Question.Answer` is the type of the answers to a question.
* `Surroundings ω` answers questions; `ω` is what the surroundings remember.
-/

namespace TenderDesk
namespace Desk

inductive Question
  /-- Sends a request to the platform. -/
  | exchange (request : Sourcing.Request)
  /-- The user that a principal is on the platform. -/
  | buyerUser (principal : String)
  /-- The company of a principal on the platform. -/
  | buyerCompany (principal : String)
  /-- The organisations on a lot of a framework. -/
  | lotSuppliers (framework lot : String)
  /-- Opens an assessment for an event. -/
  | newAssessment (framework lot : String) (kind : EventKind) (principal : String)
  /-- Tells of an assessment that the principal may see. -/
  | assessment (id : Int) (principal : String)
  /-- The criteria by which offers are judged. -/
  | criteria (project : Int) (event : String)
  /-- Whether the store answers a lookup now. -/
  | lookup
  /-- Whether the store refuses a commit. -/
  | commit
  /-- The time. -/
  | clock
  /-- Waits for some milliseconds. -/
  | pause (milliseconds : Nat)
  deriving DecidableEq, Repr

/-- How far a commit had come when the store refused it. -/
inductive Stage
  /-- Nothing had been sent yet. -/
  | opening
  /-- The edits were being sent. -/
  | sending
  /-- All edits had been sent. -/
  | closing
  deriving DecidableEq, Repr

/-- Why, and when, the store refused a commit. -/
structure Refusal where
  stage : Stage
  reason : String
  deriving DecidableEq, Repr

/-- What is told of an assessment; the id need not be the one that was asked for. -/
structure AssessmentReport where
  id : Int
  status : String
  deriving DecidableEq, Repr

abbrev Question.Answer : Question → Type
  | .exchange _ => Sourcing.Reply
  | .buyerUser _ => Except Failure (Option String)
  | .buyerCompany _ => Except Failure (Option String)
  | .lotSuppliers _ _ => Except Failure (List String)
  | .newAssessment _ _ _ _ => Except Failure Int
  | .assessment _ _ => Except Failure AssessmentReport
  | .criteria _ _ => Except Failure Json
  | .lookup => Bool
  | .commit => Option Refusal
  | .clock => Calendar.Moment
  | .pause _ => Unit

/-- Answers questions, and may remember that they were asked. -/
def Surroundings (ω : Type) : Type :=
  (q : Question) → ω → q.Answer × ω

end Desk
end TenderDesk
