import TenderDesk.Desk.Action
import TenderDesk.Desk.Patience

/-!
# Table — reading and writing the desk's own table

* `look` reads what the session sees, with patience while the store does not answer.
* `stage` puts an edited row into the session, `save` makes the session's edits last, and `insert`
  adds a row and makes it last.
* A commit that fails takes all edits of the session back, but for one case: edits of rows that were
  there before and that could not be sent leave the session blocked.
-/

namespace TenderDesk
namespace Desk

variable {ω α : Type}

/-- One lookup of values that have to fit into the words of the store. Edits that do not fit are
taken back. -/
def lookOnce (words : List Int) (read : Store → α) : Action ω α := do
  if ← .ask .lookup then
    let store ← .store
    -- The store is sent the edits before it is read.
    if !store.fits then
      .edit .rollback
      .fail .storeWord
    else if words.all Schema.Codec.fitsWord then pure (read store)
    else .fail .storeWord
  else .fail .storeUnavailable

/-- A failure that a further try may not meet. -/
def isTransient : Except Failure α → Bool
  | .error .storeUnavailable => true
  | _ => false

/-- A lookup, repeated while the store does not answer. -/
def look (settings : Settings) (words : List Int) (read : Store → α) : Action ω α := do
  -- What blocks a session is not gone at a further try.
  .unblocked
  let outcome ← Patience.retry .standard settings.attempts isTransient (fun n => .ask (.pause n))
    (Action.attempt (lookOnce words read))
  .ofExcept outcome

/-- Shows an edited row to whatever the session does next. -/
def stage (row : Row) : Action ω Unit :=
  .edit fun s => { s with working := s.working.replace row }

/-- What comes of a commit. -/
inductive Verdict
  | done
  /-- The store refused it, and the session still has its rows. -/
  | refused (failure : Failure)
  /-- The edits could not be sent, and the session has lost its rows. -/
  | unsent (failure : Failure)
  deriving DecidableEq, Repr

/-- What comes of a commit of edits, by the answer of the store that they are sent to. -/
def verdict (edited : Store) : Option Refusal → Verdict
  | some ⟨.opening, reason⟩ => .refused (.commitRefused reason)
  | some ⟨.sending, reason⟩ => .unsent (.commitRefused reason)
  | some ⟨.closing, reason⟩ =>
      if edited.fits then .refused (.commitRefused reason) else .unsent .storeWord
  | none => if edited.fits then .done else .unsent .storeWord

def commit : Action ω Verdict := do
  let refusal ← .ask .commit
  let edited ← .store
  pure (verdict edited refusal)

/-- Makes the edits of rows last that were there before. -/
def save : Action ω Unit := do
  match ← commit with
  | .done => .edit .commit
  | .refused failure =>
      .edit .rollback
      .fail failure
  | .unsent failure =>
      -- Before it takes the edits back, the failure is to be logged with the id of the row. That is
      -- one of the rows that were lost, and asking for it fails in turn.
      .edit (.block failure.message)
      .fail (.rollbackPending failure.message)

/-- Adds a row under the next number and makes it last. -/
def insert (draft : Row) : Action ω Row := do
  let store ← .store
  let row := { draft with id := store.nextId }
  .edit fun s => { s with working := s.working.add row }
  match ← commit with
  | .done =>
      .edit .commit
      pure row
  -- A row that is new stays at hand whatever becomes of the session.
  | .refused failure | .unsent failure =>
      .edit .rollback
      .fail failure

/-! ## Projects, events and links -/

def findProject (settings : Settings) (project : Int) : Action ω Project := do
  let found ← look settings [project] fun s => s.project? project
  .ofOption (.projectMissing project) found

/-- The number in a public event id. -/
def eventNumber (naming : Naming) (event : String) : Except Failure Nat :=
  let stem := naming.stem.toList
  let digits := event.toList.drop stem.length
  if stem.isPrefixOf event.toList && !digits.isEmpty && digits.all Text.isDigit then
    -- So many digits are refused before they are read.
    if Number.maxDigits < digits.length then .error (.numberTooLong digits.length)
    else .ok (Text.digitsValue digits)
  else .error (.eventIdMalformed event naming.stem)

/-- The row of an event of a project. -/
def findEvent (settings : Settings) (project : Int) (event : String) : Action ω Row := do
  let number ← .ofExcept (eventNumber settings.naming event)
  let found ← look settings [project, number] fun s => s.row? project number
  .ofOption (.eventMissing event project) found

def findEvents (settings : Settings) (project : Int) : Action ω (List Row) :=
  look settings [project] fun s => s.rowsOf project

/-- The project of a row, where one has to be there. -/
def projectOf (row : Row) : Action ω Project := do
  let store ← .store
  .ofOption .rowWithoutProject (store.project? row.project)

/-- The links of organisations, each once and in the order of the organisations. -/
def links (settings : Settings) (organisations : List String) : Action ω (List Link) := do
  let distinct := organisations.eraseDups
  let found ←
    if distinct.isEmpty then pure []
    else look settings [] fun s => distinct.filterMap s.linkOf?
  -- All organisations without a link are named at once.
  let known := found.map (·.organisation)
  match distinct.filter fun o => !known.contains o with
  | [] => pure found
  | missing => .fail (.organisationsUnlinked missing)

def findLink (settings : Settings) (organisation : String) : Action ω Link := do
  let found ← look settings [] fun s => s.linkOf? organisation
  .ofOption (.organisationUnlinked organisation) found

def findLinkOfCompany (settings : Settings) (company : Int) : Action ω Link := do
  let found ← look settings [company] fun s => s.linkOfCompany? company
  .ofOption (.organisationUnlinked (toString company)) found

end Desk
end TenderDesk
