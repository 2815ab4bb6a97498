import TenderDesk.Event.Kind
import TenderDesk.Settings.Basic

/-!
# Store — projects, organisation links and event rows

* Rows are kept in the order of their numbers; a new one gets the largest number and one more.
* A `Session` works on a copy of the saved store: edits show up in the copy at once and are saved
  by a commit only. When edits cannot even be sent to the store, the session loses them, and is of
  no use before a rollback.
-/

namespace TenderDesk

structure Project where
  id : Int
  name : String
  framework : String
  lot : String
  /-- What the platform calls the project. -/
  reference : Option String := none
  deriving DecidableEq, Repr, Inhabited

/-- An organisation and the company that it is on the platform. -/
structure Link where
  organisation : String
  company : Int
  deriving DecidableEq, Repr, Inhabited

/-- An organisation that was selected for an event, and by whom. -/
structure Selection where
  organisation : String
  createdBy : String
  deriving DecidableEq, Repr, Inhabited

structure Row where
  id : Nat
  project : Int
  name : String
  /-- The name of the event's kind, as it was stored. -/
  kind : String
  /-- The id of the event's record on the platform. -/
  externalId : Option String := none
  /-- The reference code of that record. -/
  reference : Option String := none
  downSelected : Bool := false
  assessment : Option Int := none
  target : Option Int := none
  naming : Naming
  createdBy : String
  updatedBy : String
  selections : List Selection := []
  deriving DecidableEq, Repr, Inhabited

namespace Row

/-- The id under which an event is known outside. -/
def publicId (r : Row) : String :=
  r.naming.stem ++ toString r.id

/-- The id of the event's record on the platform; an empty one is none. -/
def record? (r : Row) : Option String :=
  r.externalId.filter fun id => !id.isEmpty

/-- The numbers of a row that the store can hold. -/
def fits (r : Row) : Bool :=
  r.assessment.all Schema.Codec.fitsWord && r.target.all Schema.Codec.fitsWord

/-- The organisations selected for an event. -/
def organisations (r : Row) : List String :=
  r.selections.map (·.organisation)

/-- Selects the organisations that are not selected yet. -/
def select (r : Row) (organisations : List String) (principal : String) : Row :=
  organisations.foldl (fun r o =>
    if r.organisations.contains o then r
    else { r with selections := r.selections ++ [⟨o, principal⟩] }) r

end Row

structure Store where
  projects : List Project := []
  links : List Link := []
  rows : List Row := []
  deriving DecidableEq, Repr, Inhabited

namespace Store

def project? (s : Store) (id : Int) : Option Project :=
  s.projects.find? fun p => p.id == id

/-- The row of a number, if it belongs to a project. -/
def row? (s : Store) (project : Int) (id : Nat) : Option Row :=
  s.rows.find? fun r => r.project == project && r.id == id

def rowsOf (s : Store) (project : Int) : List Row :=
  s.rows.filter fun r => r.project == project

def linkOf? (s : Store) (organisation : String) : Option Link :=
  s.links.find? fun l => l.organisation == organisation

def linkOfCompany? (s : Store) (company : Int) : Option Link :=
  s.links.find? fun l => l.company == company

/-- The number of the next new row. -/
def nextId (s : Store) : Nat :=
  s.rows.foldl (fun n r => max n (r.id + 1)) 1

/-- Puts a row in the place of the one with its number. -/
def replace (s : Store) (row : Row) : Store :=
  { s with rows := s.rows.map fun r => if r.id = row.id then row else r }

/-- Adds a row behind all others. -/
def add (s : Store) (row : Row) : Store :=
  { s with rows := s.rows ++ [row] }

def fits (s : Store) : Bool :=
  s.rows.all Row.fits

end Store

structure Session where
  saved : Store
  working : Store
  /-- Why the edits could not be sent, if they could not and there was no rollback since. -/
  blocked : Option String
  deriving DecidableEq, Repr, Inhabited

namespace Session

/-- A session that has not edited anything yet. -/
def fresh (s : Store) : Session :=
  ⟨s, s, none⟩

def commit (s : Session) : Session :=
  fresh s.working

def rollback (s : Session) : Session :=
  fresh s.saved

/-- The edits could not be sent. -/
def block (message : String) (s : Session) : Session :=
  { saved := s.saved, working := s.saved, blocked := some message }

end Session

/-! ## Properties -/

namespace Row

theorem select_organisations (r : Row) (os : List String) (principal : String) :
    (r.select os principal).organisations =
      os.foldl (fun acc o => if acc.contains o then acc else acc ++ [o]) r.organisations := by
  induction os generalizing r with
  | nil => rfl
  | cons o os ih =>
      -- The selections grow from the front of the list, so `r` varies.
      simp only [select, List.foldl_cons] at ih ⊢
      rw [ih]
      split <;> simp_all [organisations]

theorem select_nodup {r : Row} (h : r.organisations.Nodup) (os : List String)
    (principal : String) : (r.select os principal).organisations.Nodup := by
  rw [select_organisations]
  -- The induction is on what is added, over any organisations selected before.
  generalize r.organisations = acc at h
  induction os generalizing acc with
  | nil => exact h
  | cons o os ih =>
      rw [List.foldl_cons]
      apply ih
      split
      · exact h
      · rename_i hc
        simp only [List.contains_iff_mem] at hc
        refine List.nodup_append.2 ⟨h, by simp, ?_⟩
        rintro a ha b hb rfl
        simp only [List.mem_singleton] at hb
        exact hc (hb ▸ ha)

end Row

namespace Store

theorem mem_replace {s : Store} {row r : Row} (h : r ∈ (s.replace row).rows) :
    r = row ∨ (r ∈ s.rows ∧ r.id ≠ row.id) := by
  simp only [replace, List.mem_map] at h
  obtain ⟨x, hx, rfl⟩ := h
  split
  · exact .inl rfl
  · rename_i hne
    exact .inr ⟨hx, hne⟩

theorem le_foldl_max (rows : List Row) (n : Nat) :
    n ≤ rows.foldl (fun n r => max n (r.id + 1)) n := by
  induction rows generalizing n with
  | nil => exact Nat.le_refl n
  | cons r rows ih => exact Nat.le_trans (Nat.le_max_left n _) (ih _)

theorem id_lt_foldl_max {r : Row} (rows : List Row) (n : Nat) (h : r ∈ rows) :
    r.id < rows.foldl (fun n r => max n (r.id + 1)) n := by
  induction rows generalizing n with
  | nil => exact absurd h List.not_mem_nil
  | cons x rows ih =>
      rcases List.mem_cons.1 h with rfl | h
      · exact Nat.lt_of_lt_of_le (Nat.lt_of_lt_of_le (Nat.lt_succ_self _) (Nat.le_max_right n _))
          (le_foldl_max rows (max n (r.id + 1)))
      · exact ih _ h

theorem id_lt_nextId {s : Store} {r : Row} (h : r ∈ s.rows) : r.id < s.nextId :=
  id_lt_foldl_max s.rows 1 h

end Store
end TenderDesk
