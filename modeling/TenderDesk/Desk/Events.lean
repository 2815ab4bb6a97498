import TenderDesk.Desk.Suppliers
import TenderDesk.Event.Request

/-!
# Events — creating, changing, showing and publishing events

The desk's table and the platform share no transaction. What the table is going to rely on is
asked for first, and the table is written last.

* `createEvent` opens whatever the kind of the event needs: a record on the platform, or an
  assessment with the suppliers of the lot.
* `updateEvent` stages its edits one by one and saves them together.
* `publishEvent` lets only planned events with valid dates pass.
-/

namespace TenderDesk
namespace Desk

open Sourcing

variable {ω : Type}

/-! ## Status and title -/

/-- The status that a code of the platform stands for. -/
def translate (statuses : List (RawText × Status)) (code : String) : Except PlatformFault Status :=
  match lookup? statuses code with
  | some status => .ok status
  | none => .error (.unknownStatus code)

/-- The status that the word of an assessment stands for. -/
def statusOfWord (word : String) : Except PlatformFault Status :=
  match Status.ofWord? word with
  | some status => .ok status
  | none => .error (.unknownAssessmentStatus word)

/-- The status of an event, and its record if it has one. -/
def statusOf (settings : Settings) (row : Row) (principal : String) :
    Action ω (Status × Option Snapshot) := do
  -- A record tells the status, and an assessment does only where there is no record.
  match row.record? with
  | some record =>
      let snapshot ← fetchRecord settings.platform record
      let status ← ofPlatform
        (translate settings.statuses (Status.codeText snapshot.statusCode?))
      pure (status, some snapshot)
  | none =>
      match row.assessment with
      | some assessment =>
          let report ← .ofExcept (← .ask (.assessment assessment principal))
          let status ← ofPlatform (statusOfWord report.status)
          pure (status, none)
      | none => pure (.planning, none)

/-- A parameter for the creation of records. -/
def creationParameter (p : Platform) (name : String) : Except Failure String :=
  match lookup? p.creation name with
  | some value => .ok value.repaired
  | none => .error (.settingMissing name)

/-- The title of an event that was given none. -/
def defaultTitle (p : Platform) (project : String) (kind : EventKind) : Except Failure String :=
  match creationParameter p "defaultTitleFormat" with
  | .ok pattern =>
      match Text.fillPattern pattern [project, kind.name] with
      | .ok title => .ok title
      | .error fault => .error (.titlePattern fault)
  | .error failure => .error failure

/-- What is reported about a row. -/
def summary (row : Row) (status : Status) : Except Failure EventSummary :=
  match EventKind.ofName row.kind with
  | .ok kind => .ok {
      id := row.publicId, title := row.name, kind, status, reference := row.reference,
      assessment := row.assessment }
  | .error failure => .error failure

/-- The user that a principal is on the platform, where one has to be. -/
def findUser (principal : String) : Action ω String := do
  match ← .ofExcept (← .ask (.buyerUser principal)) with
  | some user => if user.isEmpty then .fail .userMissing else pure user
  | none => .fail .userMissing

/-- The id that is told of an assessment, if it exists and the principal may see it. -/
def checkAssessment (id : Int) (principal : String) : Action ω Int := do
  let report ← .ofExcept (← .ask (.assessment id principal))
  pure report.id

/-! ## Records for events -/

/-- The links of the suppliers on a project's lot. -/
def lotLinks (settings : Settings) (project : Project) : Action ω (List Link) := do
  let organisations ← .ofExcept (← .ask (.lotSuppliers project.framework project.lot))
  links settings organisations

/-- The record for a new event. -/
def newRecord (project : Project) (name template user : String) (company : Option String)
    (companies : List Int) : Rfx where
  head := .set {
    rfiFlag := .set 0
    tender := .ofOption project.reference
    template := .set template
    title := .set name
    buyer := .set { id := .ofOption company }
    owner := .set { id := .set user }
    sort := .set "STANDARD_ITT" }
  notes := .set { notes := .set [
    Note.of "Framework Name" project.framework,
    Note.of "Lot Number" project.lot] }
  suppliers := .set (.ofCompanies companies)

/-- Creates the record of an event, and gives the row with its id and reference code. -/
def createRecord (settings : Settings) (row : Row) (project : Action ω Project)
    (principal : String) : Action ω Row := do
  let user ← findUser principal
  let company ← .ofExcept (← .ask (.buyerCompany principal))
  -- A row without its project fails here, after the platform's user and company are known.
  let project ← project
  let links ← lotLinks settings project
  let template ← .ofExcept (creationParameter settings.platform "templateId")
  let record := newRecord project row.name template user company (links.map (·.company))
  let receipt ← writeRecord settings.platform .createFromTemplate record
  pure { row with externalId := receipt.id.get?, reference := receipt.reference.get? }

/-- Opens an assessment for an event of a kind. -/
def openAssessment (project : Project) (kind : EventKind) (principal : String) : Action ω Int := do
  .ofExcept (← .ask (.newAssessment project.framework project.lot kind principal))

/-! ## Creating -/

/-- The row of a new event, before anything belongs to it. -/
def draft (settings : Settings) (project : Project) (name : String) (kind : EventKind)
    (downSelected : Bool) (principal : String) : Row where
  id := 0
  project := project.id
  name := name
  kind := kind.name
  downSelected := downSelected
  naming := settings.naming
  createdBy := principal
  updatedBy := principal

/-- The assessment of a new event: the one that was asked for, or a new one. -/
def assessmentFor (project : Project) (kind : EventKind) (asked : Option Int)
    (principal : String) : Action ω Int :=
  match asked with
  | some id => checkAssessment id principal
  | none => openAssessment project kind principal

/-- The title of a new event: the one that was asked for, if it is not empty. -/
def titleFor (p : Platform) (project : Project) (asked : Option String) (kind : EventKind) :
    Except Failure String :=
  match asked.filter fun s => !s.isEmpty with
  | some title => .ok title
  | none => defaultTitle p project.name kind

/-- Opens what a new event needs, and adds its row. -/
def openEvent (settings : Settings) (project : Project) (row : Row) (kind : EventKind)
    (asked : Option Int) (principal : String) : Action ω Row := do
  match kind.owner with
  | .assessment =>
      -- The suppliers of the lot are looked up before anything is opened.
      let links ← lotLinks settings project
      let assessment ← assessmentFor project kind asked principal
      insert (withSuppliers { row with assessment := some assessment }
        (links.map (·.organisation)) true principal)
  | .platform =>
      let row ← createRecord settings row (pure project) principal
      insert row
  | .nobody =>
      match asked with
      | some id =>
          let assessment ← checkAssessment id principal
          insert { row with assessment := some assessment }
      | none => insert row

def createEvent (settings : Settings) (project : Int) (request : NewEvent) (downSelected : Bool)
    (principal : String) : Action ω EventSummary := do
  let project ← findProject settings project
  let kind := request.kind.getD .tbd
  let name ← .ofExcept (titleFor settings.platform project request.name kind)
  let row := draft settings project name kind downSelected principal
  let row ← openEvent settings project row kind request.assessment principal
  .ofExcept (summary row .planning)

/-! ## Changing -/

/-- The new name that an edit asks for; blank text is none. -/
def newName (edit : EventEdit) : Option String :=
  edit.name.filter fun s => !(Text.strip s).isEmpty

/-- The row with the name that an edit asks for. -/
def renamed (row : Row) (edit : EventEdit) : Row :=
  { row with name := (newName edit).getD row.name }

/-- The row with the kind that an edit asks for. -/
def withKind (row : Row) (kind : Option EventKind) : Except Failure Row :=
  match kind with
  | none => .ok row
  | some kind =>
      match EventKind.assign row.publicId (EventKind.stateOf (some row.kind)) kind with
      | .ok kind => .ok { row with kind := kind.name }
      | .error failure => .error failure

/-- An edit that gives an event without an assessment a kind that needs one. -/
def needsAssessment (row : Row) (edit : EventEdit) : Bool :=
  edit.kind.any (fun kind => kind.owner == .assessment) && edit.assessment.isNone
    && row.assessment.isNone

/-- An edit that changes the row. -/
def isEdit (edit : EventEdit) : Bool :=
  (newName edit).isSome || edit.kind.isSome || edit.assessment.isSome || edit.target.isSome

/-- The assessment that an edit names, or else the one that the row has. -/
def assessmentAfter (row : Row) (edit : EventEdit) (principal : String) : Action ω (Option Int) :=
  match edit.assessment with
  | some id => some <$> checkAssessment id principal
  | none => pure row.assessment

/-- Stages the edits of the row alone, and the assessment that they need. -/
def stageEdits (row : Row) (edit : EventEdit) (principal : String) : Action ω Row := do
  let row := renamed row edit
  stage row
  -- The kind that the row had decides, so this is settled before the kind is staged.
  let needed := needsAssessment row edit
  let row ← .ofExcept (withKind row edit.kind)
  stage row
  let assessment ← assessmentAfter row edit principal
  let row := { row with assessment, target := edit.target.or row.target }
  stage row
  if needed then
    let project ← projectOf row
    let kind ← .ofExcept (EventKind.ofName row.kind)
    let assessment ← openAssessment project kind principal
    let row := { row with assessment := some assessment }
    stage row
    pure row
  else pure row

/-- The change that sends the title of a record and nothing else. -/
def titleChange (before : Row) (name : String) : Rfx :=
  { head := .set { Head.key before.externalId before.reference with title := .set name } }

/-- Brings the platform up to date: creates the record of an event that needs one and has none, or
changes the title of the record. -/
def updateRecord (settings : Settings) (before row : Row) (edit : EventEdit)
    (principal : String) : Action ω Row := do
  let kind ← .ofExcept (EventKind.ofName row.kind)
  match row.record? with
  | none =>
      -- The first concrete kind of an event: its record is created with the new title.
      if kind.owner = .platform then
        let row ← createRecord settings row (projectOf row) principal
        stage row
        pure row
      else pure row
  | some _ =>
      match newName edit with
      | some name =>
          let _ ← writeRecord settings.platform .createUpdate (titleChange before name)
          pure row
      | none => pure row

/-- Makes the edits of a row last; a call without any saves nothing. -/
def saveEdits (row : Row) (edit : EventEdit) (principal : String) : Action ω Row := do
  if isEdit edit then
    let row := { row with updatedBy := principal }
    stage row
    save
    pure row
  else pure row

def updateEvent (settings : Settings) (project : Int) (event : String) (edit : EventEdit)
    (principal : String) : Action ω EventSummary := do
  let before ← findEvent settings project event
  let row ← stageEdits before edit principal
  -- A failure from here on takes the staged edits back; one before does not.
  let row ← (updateRecord settings before row edit principal).onFailure .rollback
  let row ← saveEdits row edit principal
  let (status, _) ← statusOf settings row principal
  .ofExcept (summary row status)

/-! ## Showing -/

/-- The criteria of an event; only one with a record of its own has any. -/
def criteriaOf (row : Row) (project : Int) (event : String) :
    Action ω (List (List (RawText × Json))) := do
  let kind ← .ofExcept (EventKind.ofName row.kind)
  if kind.owner = .platform then
    let criteria ← .ofExcept (← .ask (.criteria project event))
    match (EventDetail.criteriaCodec.read criteria).under (.name "criteria") with
    | .ok criteria => pure criteria
    | .error faults => .fail (.faults faults)
  else pure []

/-- The description that a record gives. -/
def descriptionOf (snapshot : Option Snapshot) : Option String :=
  snapshot.bind fun s => s.head.get?.bind (·.description.get?)

def getEvent (settings : Settings) (project : Int) (event principal : String) :
    Action ω EventDetail := do
  let row ← findEvent settings project event
  let (status, snapshot) ← statusOf settings row principal
  let criteria ← criteriaOf row project event
  let kind ← .ofExcept (EventKind.ofName row.kind)
  pure {
    id := row.publicId, title := row.name, description := descriptionOf snapshot, kind, status,
    reference := row.reference, downSelected := row.downSelected, assessment := row.assessment,
    target := row.target, criteria }

def summaries (settings : Settings) (principal : String) :
    List Row → Action ω (List EventSummary)
  | [] => pure []
  | row :: rows => do
      let (status, _) ← statusOf settings row principal
      let first ← .ofExcept (summary row status)
      let rest ← summaries settings principal rows
      pure (first :: rest)

def listEvents (settings : Settings) (project : Int) (principal : String) :
    Action ω (List EventSummary) := do
  let _ ← findProject settings project
  let rows ← findEvents settings project
  summaries settings principal rows

/-! ## Publishing -/

def publishEvent (settings : Settings) (project : Int) (event : String) (dates : Publication)
    (principal : String) : Action ω Unit := do
  let user ← findUser principal
  let row ← findEvent settings project event
  match row.record? with
  | none => .fail (.notPublishable event row.kind)
  | some record =>
      let (status, _) ← statusOf settings row principal
      -- The dates are looked at only where the event may be published at all.
      if status = .planned then
        let now ← .ask .clock
        .ofExcept (dates.check now.instant)
        let _ ← publishRecord settings.platform (publishOrder record row.reference dates user)
        pure ()
      else .fail (.notPlanned event status)

end Desk
end TenderDesk
