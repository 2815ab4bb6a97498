import TenderDesk.Proofs.Desk.Course

/-!
# Calm — what the table tells when nothing fails

`Calm w I` says of the surroundings `w` that the store answers all lookups and takes all commits.
Then what is looked up is found exactly when it is there, and what is saved lasts.
-/

namespace TenderDesk
namespace Desk

variable {ω α β : Type} {w : Surroundings ω} {σ : Session} {I : Trail ω} {saved : Store}

/-- The store takes part whenever it is asked to, and what is known does not depend on it. -/
structure Calm (w : Surroundings ω) (I : Trail ω) : Prop where
  answers : ∀ m asked, I m asked → (w .lookup m).1 = true
  commits : ∀ m asked, I m asked → (w .commit m).1 = none
  lookups : w.Keeps Question.IsLookup I
  saves : w.Keeps (· = .commit) I

/-- Something is not there, and nothing was changed. -/
abbrev Misses (saved : Store) (I : Trail ω) : Failure → Run ω → Prop :=
  fun failure r => failure.category = .notFound ∧ r.At (.fresh saved) I

/-! ## Lookups -/

theorem Surroundings.wait_of_answer {m : ω} (h : (w .lookup m).1 = true) (attempts : Int) :
    w.wait attempts m = ⟨true, (w .lookup m).2, [.lookup]⟩ := by
  unfold wait
  cases Patience.calls attempts - 1 with
  | zero =>
      unfold waitFor
      rw [h]
  | succ again =>
      unfold waitFor
      rw [if_pos h]

/-- A lookup tells what the session sees, staged edits included. -/
theorem look_working (hI : Calm w I) (hopen : σ.blocked = none) {words : List Int}
    (hreads : σ.working.Reads words) (s : Settings) (read : Store → α) :
    Triple w (Run.At σ I) (look s words read) (fun a r => a = read σ.working ∧ r.At σ I) Never := by
  intro r hr
  have hanswer := hI.answers r.memory r.asked hr.2
  rw [look_apply (by rw [hr.1, hopen]), Surroundings.wait_of_answer hanswer]
  unfold Run.lookedUp Session.lookedUp
  rw [hr.1, if_pos rfl, if_pos hreads.1, if_pos hreads.2]
  exact ⟨rfl, rfl, hI.lookups .lookup trivial _ _ hr.2⟩

theorem look_calm (hI : Calm w I) {words : List Int} (hreads : saved.Reads words) (s : Settings)
    (read : Store → α) :
    Triple w (Run.At (.fresh saved) I) (look s words read)
      (fun a r => a = read saved ∧ r.At (.fresh saved) I) Never :=
  look_working (σ := .fresh saved) hI rfl hreads s read

theorem findProject_calm (hI : Calm w I) {s : Settings} {project : Int} {found : Project}
    (hreads : saved.Reads [project]) (hproject : saved.project? project = some found) :
    Triple w (Run.At (.fresh saved) I) (findProject s project)
      (fun p r => p = found ∧ r.At (.fresh saved) I) Never := by
  unfold findProject
  apply Triple.bind_known (look_calm hI hreads s _)
  rw [hproject]
  exact Triple.pure fun r h => ⟨rfl, h⟩

theorem findEvent_calm (hI : Calm w I) {s : Settings} {project : Int} {event : String} {row : Row}
    (hnames : Names s.naming saved project event row) (hreads : saved.Reads [project, row.id]) :
    Triple w (Run.At (.fresh saved) I) (findEvent s project event)
      (fun found r => found = row ∧ r.At (.fresh saved) I) Never := by
  unfold findEvent
  rw [id_of_names hnames, Action.ofExcept_ok, pure_bind]
  apply Triple.bind_known (look_calm hI hreads s _)
  rw [row?_of_names hnames]
  exact Triple.pure fun r h => ⟨rfl, h⟩

instance (s : Store) (organisations : List String) : Decidable (Linked s organisations) :=
  inferInstanceAs (Decidable (∀ o ∈ organisations, (s.linkOf? o).isSome))

theorem links_working (hI : Calm w I) (hopen : σ.blocked = none) (hfits : σ.working.fits = true)
    {organisations : List String} (hlinked : Linked σ.working organisations) (s : Settings) :
    Triple w (Run.At σ I) (links s organisations)
      (fun found r => found = organisations.eraseDups.filterMap σ.working.linkOf? ∧ r.At σ I)
      Never := by
  have hnil := missing_eq_nil_iff.2 (linked_eraseDups.2 hlinked)
  unfold links
  extract_lets distinct rest
  have done : ∀ found : List Link, found = distinct.filterMap σ.working.linkOf? →
      Triple w (Run.At σ I) (rest found)
        (fun found r => found = distinct.filterMap σ.working.linkOf? ∧ r.At σ I) Never := by
    rintro found rfl
    dsimp only [rest]
    rw [hnil]
    exact Triple.pure fun r h => ⟨rfl, h⟩
  split
  · rename_i hempty
    have hnone : [] = distinct.filterMap σ.working.linkOf? := by
      rw [List.isEmpty_iff.1 hempty]
      rfl
    exact done [] hnone
  · apply Triple.bind (look_working hI hopen ⟨hfits, rfl⟩ s _)
    intro found
    exact Triple.of_fact fun hfound => done found hfound

theorem links_calm (hI : Calm w I) (hfits : saved.fits = true) {organisations : List String}
    (hlinked : Linked saved organisations) (s : Settings) :
    Triple w (Run.At (.fresh saved) I) (links s organisations)
      (fun found r => found = organisations.eraseDups.filterMap saved.linkOf? ∧
        r.At (.fresh saved) I) Never :=
  links_working (σ := .fresh saved) hI rfl hfits hlinked s

theorem links_missing (hI : Calm w I) (hfits : saved.fits = true) {organisations : List String}
    (hunlinked : ¬Linked saved organisations) (s : Settings) :
    Triple w (Run.At (.fresh saved) I) (links s organisations) (fun _ _ => False)
      (Misses saved I) := by
  unfold links
  extract_lets distinct rest
  split
  · -- No organisations are all linked.
    rename_i hempty
    have hlinked : Linked saved distinct := by
      rw [List.isEmpty_iff.1 hempty]
      exact List.forall_mem_nil _
    exact absurd (linked_eraseDups.1 hlinked) hunlinked
  · apply Triple.bind_known (look_calm hI ⟨hfits, rfl⟩ s _)
    dsimp only [rest]
    split
    · rename_i hnil
      exact absurd (linked_eraseDups.1 (missing_eq_nil_iff.1 hnil)) hunlinked
    · exact Triple.fail fun r h => ⟨rfl, h⟩

theorem findLink_calm (hI : Calm w I) (hfits : saved.fits = true) {organisation : String}
    {link : Link} (h : saved.linkOf? organisation = some link) (s : Settings) :
    Triple w (Run.At (.fresh saved) I) (findLink s organisation)
      (fun found r => found = link ∧ r.At (.fresh saved) I) Never := by
  unfold findLink
  apply Triple.bind_known (look_calm hI ⟨hfits, rfl⟩ s _)
  rw [h]
  exact Triple.pure fun r h => ⟨rfl, h⟩

theorem findLink_missing (hI : Calm w I) (hfits : saved.fits = true) {organisation : String}
    (h : saved.linkOf? organisation = none) (s : Settings) :
    Triple w (Run.At (.fresh saved) I) (findLink s organisation) (fun _ _ => False)
      (Misses saved I) := by
  unfold findLink
  apply Triple.bind_known (look_calm hI ⟨hfits, rfl⟩ s _)
  rw [h]
  exact Triple.fail fun r h => ⟨rfl, h⟩

theorem findLinkOfCompany_calm (hI : Calm w I) {company : Int} (hreads : saved.Reads [company])
    {link : Link} (h : saved.linkOfCompany? company = some link) (s : Settings) :
    Triple w (Run.At (.fresh saved) I) (findLinkOfCompany s company)
      (fun found r => found = link ∧ r.At (.fresh saved) I) Never := by
  unfold findLinkOfCompany
  apply Triple.bind_known (look_calm hI hreads s _)
  rw [h]
  exact Triple.pure fun r h => ⟨rfl, h⟩

/-! ## Edits -/

theorem commit_calm (hI : Calm w I) (hfits : σ.working.fits = true) :
    Triple w (Run.At σ I) commit (fun v r => v = .done ∧ r.At σ I) Never := by
  unfold commit
  refine Triple.bind (R := fun answer r => answer = none ∧ r.At σ I) ?_ fun answer => ?_
  · exact Triple.ask fun r h =>
      ⟨hI.commits _ _ h.2, h.1, hI.saves .commit rfl _ _ h.2⟩
  apply Triple.of_fact
  rintro rfl
  refine Triple.bind (R := fun store r => store = σ.working ∧ r.At σ I)
    (Triple.store fun r h => ⟨congrArg Session.working h.1, h⟩) fun store => ?_
  apply Triple.of_fact
  rintro rfl
  exact Triple.pure fun r h => ⟨if_pos hfits, h⟩

theorem save_calm (hI : Calm w I) (hfits : σ.working.fits = true) :
    Triple w (Run.At σ I) save (fun _ => Run.At (.fresh σ.working) I) Never := by
  unfold save
  apply Triple.bind_known (commit_calm hI hfits)
  exact Triple.edit fun r h => ⟨congrArg Session.commit h.1, h.2⟩

theorem insert_calm (hI : Calm w I) (row : Row)
    (hfits : (saved.add { row with id := saved.nextId }).fits = true) :
    Triple w (Run.At (.fresh saved) I) (insert row)
      (fun row' r => row' = { row with id := saved.nextId } ∧ r.At (.fresh (saved.add row')) I)
      Never := by
  let row' : Row := { row with id := saved.nextId }
  unfold insert
  apply Triple.bind_known (R := Run.At (.fresh saved) I) (a := saved)
    (Triple.store fun r h => ⟨congrArg Session.working h.1, h⟩)
  refine Triple.bind (R := fun _ => Run.At ⟨saved, saved.add row', none⟩ I) ?_ fun _ => ?_
  · exact Triple.edit fun r h => ⟨by rw [h.1]; rfl, h.2⟩
  apply Triple.bind_known (commit_calm (σ := ⟨saved, saved.add row', none⟩) hI hfits)
  refine Triple.bind (R := fun _ => Run.At (.fresh (saved.add row')) I) ?_ fun _ => ?_
  · exact Triple.edit fun r h => ⟨congrArg Session.commit h.1, h.2⟩
  · exact Triple.pure fun r h => ⟨rfl, h⟩

end Desk
end TenderDesk
