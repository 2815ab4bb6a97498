import TenderDesk.Event.Kind
import TenderDesk.Event.Status
import TenderDesk.Number.Reading
import TenderDesk.Text.Pattern

/-!
# Failure — why an operation ends without a result

* `PlatformFault` covers everything that the sourcing platform, or the reading of its answers, can
  do wrong; some of these faults carry a return code.
* `Failure` covers the rest as well. `Failure.category` tells callers how to treat one, and
  `Failure.message` is its only wording.
-/

namespace TenderDesk

/-! ## The sourcing platform -/

inductive PlatformFault
  /-- The platform answered with another status than success. -/
  | refused (endpoint body : String) (status : Int)
  /-- There was no answer, or none that could be read. -/
  | unreachable (endpoint detail : String)
  | emptyAnswer (action : String)
  | malformedAnswer (action : String)
  /-- The platform answered that it did not do what was asked. -/
  | rejected (action : String) (reason : Option String) (code : Option Int)
  | recordMissing (id : String)
  | unidentifiedSupplier (id : String)
  | unknownStatus (code : String)
  | unknownAssessmentStatus (word : String)
  deriving DecidableEq, Repr

namespace PlatformFault

/-- The return code of a fault. -/
def code : PlatformFault → Option Int
  | .refused _ _ status => some status
  | .rejected _ _ code => code
  | _ => none

/-- The reason of a rejection; an empty one is none. -/
def reasonText (action : String) (reason : Option String) : String :=
  match reason with
  | some s => if s.isEmpty then s!"Unexpected error during {action}" else s
  | none => s!"Unexpected error during {action}"

def wording : PlatformFault → String
  | .refused endpoint body _ => s!"Remote call {endpoint} failed: {body}"
  | .unreachable endpoint detail => s!"Remote call {endpoint} could not complete: {detail}"
  | .emptyAnswer action => s!"Empty response to {action}"
  | .malformedAnswer action => s!"Malformed response to {action}"
  | .rejected action reason _ => reasonText action reason
  | .recordMissing id => s!"Rfx '{id}' not found on the remote platform"
  | .unidentifiedSupplier id => s!"Rfx '{id}' lists a supplier without company data"
  | .unknownStatus code => s!"Unmapped remote status code '{code}'"
  | .unknownAssessmentStatus word => s!"Unknown assessment status '{word}'"

/-- The wording with the return code behind it. -/
def message (f : PlatformFault) : String :=
  match f.code with
  | some c => s!"{f.wording} (return code: {c})"
  | none => f.wording

end PlatformFault

/-! ## All failures -/

/-- How callers treat a failure. -/
inductive Category
  | notFound
  | invalid
  | forbidden
  | conflict
  | platform
  /-- Nothing that a caller could mend. -/
  | internal
  deriving DecidableEq, Repr

inductive Failure
  -- lookups
  | projectMissing (project : Int)
  | eventMissing (event : String) (project : Int)
  | eventIdMalformed (event idPrefix : String)
  | numberTooLong (digits : Nat)
  | organisationUnlinked (organisation : String)
  | organisationsUnlinked (organisations : List String)
  | userMissing
  -- kinds and states
  | initialKindAssigned (event : String)
  | kindAlreadyAssigned (state : String) (kind : EventKind)
  | unknownName (shown sort : String)
  | notPublishable (event kind : String)
  | notPlanned (event : String) (status : Status)
  | datesRefused (problems : List String)
  -- suppliers
  | suppliersUnowned (event : String)
  | supplierNotSelected (organisation event : String)
  | supplierNotListed (organisation event : String)
  -- documents
  | documentsUnowned (event kind : String)
  | extensionRefused (allowed : List String)
  | fileTooLarge (size limit : Int)
  | totalTooLarge (event : String) (limit total : Int) (count : Nat)
  | documentIdMalformed (id : String)
  | documentMissing (name : String) (file : Int)
  | uploadLost
  /-- A document has no id, because half of a pair stands in its name. -/
  | nameRefused (message : String)
  -- the platform and other services
  | platform (fault : PlatformFault)
  | recordListKeyed
  | recordListPlain (sort : String)
  /-- An answer is nested too deeply to be read. -/
  | answerTooDeep (message : String)
  /-- An answer declares a charset that is none of text. -/
  | charsetRefused (message : String)
  | reported (category : Category) (message : String)
  -- settings and the store
  | settingMissing (name : String)
  | titlePattern (fault : Text.PatternFault)
  | faults (all : List Schema.Fault)
  | rowWithoutProject
  | storeUnavailable
  | storeWord
  | commitRefused (message : String)
  /-- The session was used although its edits could not be sent and were not taken back. -/
  | rollbackPending (message : String)
  deriving DecidableEq, Repr

namespace Failure

def category : Failure → Category
  | .projectMissing _ | .eventMissing _ _ | .organisationUnlinked _ | .organisationsUnlinked _
  | .supplierNotSelected _ _ | .supplierNotListed _ _ | .documentMissing _ _ | .uploadLost =>
      .notFound
  | .eventIdMalformed _ _ | .datesRefused _ | .extensionRefused _ | .fileTooLarge _ _
  | .totalTooLarge _ _ _ _ | .documentIdMalformed _ => .invalid
  | .userMissing => .forbidden
  | .initialKindAssigned _ | .kindAlreadyAssigned _ _ | .notPublishable _ _ | .notPlanned _ _
  | .suppliersUnowned _ | .documentsUnowned _ _ => .conflict
  | .platform _ => .platform
  | .reported category _ => category
  | _ => .internal

/-- The return code that a failure carries. -/
def code : Failure → Option Int
  | .platform fault => fault.code
  | _ => none

def message : Failure → String
  | .projectMissing project => s!"Project '{project}' not found"
  | .eventMissing event project => s!"Event '{event}' not found on project '{project}'"
  | .eventIdMalformed event idPrefix =>
      s!"Invalid event id '{event}', expected '{idPrefix}<number>'"
  | .numberTooLong digits => Number.tooLongMessage digits
  | .organisationUnlinked organisation =>
      s!"Organisation id '{organisation}' not found in organisation mappings"
  | .organisationsUnlinked organisations =>
      "The following suppliers are not present in the Organisation Mappings, "
        ++ "so unable to add them: " ++ Text.quotedList organisations
  | .userMissing => "Remote platform user not found"
  | .initialKindAssigned event => s!"Event {event} cannot be assigned the placeholder type"
  | .kindAlreadyAssigned state kind =>
      s!"Cannot update an existing event type of '{state}' to '{kind.name}'"
  | .unknownName shown sort => s!"{shown} is not a valid {sort}"
  | .notPublishable event kind =>
      s!"Event {event} of type {kind} is not on the remote platform and cannot be published"
  | .notPlanned event status =>
      "You cannot publish an event unless it is in a 'planned' state "
        ++ s!"(event {event} is '{status.name}')"
  | .datesRefused problems => "; ".intercalate problems
  | .suppliersUnowned event => s!"Event {event} has no event type yet, suppliers cannot be managed"
  | .supplierNotSelected organisation event =>
      s!"Supplier '{organisation}' is not selected on event {event}"
  | .supplierNotListed organisation event => s!"Supplier '{organisation}' is not on event {event}"
  | .documentsUnowned event kind =>
      s!"Event {event} of type {kind} has no documents on the remote platform"
  | .extensionRefused allowed =>
      "File is not one of the allowed types: " ++ Text.quotedList allowed
  | .fileTooLarge size limit =>
      s!"File is too large: {size} bytes. Maximum allowed upload size is: {limit} bytes"
  | .totalTooLarge event limit total count =>
      s!"Uploading file will exceed the maximum allowed total limit of {limit} bytes for event "
        ++ s!"{event} (current total size is {total} bytes, across {count} files)"
  | .documentIdMalformed id => s!"Invalid document id '{id}'"
  | .documentMissing name file => s!"Document '{name}' ({file}) not found"
  | .uploadLost => "There was an unexpected error uploading the document"
  | .platform fault => fault.message
  | .recordListKeyed => "0"
  | .recordListPlain sort => s!"'{sort}' object is not subscriptable"
  | .nameRefused message | .answerTooDeep message | .charsetRefused message => message
  | .reported _ message => message
  | .settingMissing name => Text.quoted name
  | .titlePattern fault => fault.message
  | .faults all => s!"{all.length} faults"
  | .rowWithoutProject => "'NoneType' object has no attribute 'ca_number'"
  | .storeUnavailable => "the store did not answer"
  | .storeWord => "Python int too large to convert to SQLite INTEGER"
  | .commitRefused message => message
  | .rollbackPending message =>
      "This Session's transaction has been rolled back due to a previous exception during flush. "
        ++ "To begin a new transaction with this Session, first issue Session.rollback(). "
        ++ s!"Original exception was: {message}"

/-- The separate problems that an invalid request has; one unless dates were checked. -/
def problems (f : Failure) : List String :=
  match f with
  | .datesRefused problems => problems
  | _ => [f.message]

end Failure
end TenderDesk
