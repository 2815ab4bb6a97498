import TenderDesk.Desk.Table
import TenderDesk.Proofs.Desk.Triple
import TenderDesk.Proofs.Store.Rows

/-!
# Table — what reading and writing the desk's own table does

* A lookup reads what the session sees and leaves the session alone. When it fails, edits may be
  gone, but nothing was saved.
* `save` makes all edits last or none. A save that fails was the last thing asked.
-/

namespace TenderDesk
namespace Desk

variable {ω α : Type} {w : Surroundings ω} {σ : Session} {I : Trail ω} {saved : Store}

/-! ## Lookups -/

/-- How one try of a lookup ends. -/
def LookEnd (σ : Session) (I : Trail ω) (a : α) : Except Failure α → Run ω → Prop
  | .ok b, r => b = a ∧ r.At σ I
  | .error failure, r =>
      (failure = .storeUnavailable ∧ r.At σ I) ∨ (failure = .storeWord ∧ r.Near σ I)

theorem lookOnce_triple (hI : w.Keeps Question.IsLookup I) (words : List Int)
    (read : Store → α) :
    Triple w (Run.At σ I) (lookOnce words read)
      (fun a => LookEnd σ I (read σ.working) (.ok a))
      (fun failure => LookEnd σ I (read σ.working) (.error failure)) := by
  unfold lookOnce
  refine Triple.bind (Triple.ask_keeping hI trivial) fun answered => ?_
  cases answered with
  -- The store is not available: nothing was read, and nothing undone.
  | false => exact Triple.fail fun r h => .inl ⟨rfl, h⟩
  | true =>
      refine Triple.bind (R := fun store r => store = σ.working ∧ r.At σ I)
        (Triple.store fun r h => ⟨congrArg Session.working h.1, h⟩) fun store => ?_
      apply Triple.of_fact
      intro hstore
      subst hstore
      -- The edits go to the store before it is read, and are undone if they do not fit into it.
      by_cases hfits : σ.working.fits
      · simp only [hfits, Bool.not_true, Bool.false_eq_true, if_false]
        split
        · exact Triple.pure fun r h => ⟨rfl, h⟩
        · -- A number that is no word of the store is refused, with the edits in place.
          exact Triple.fail fun r h => .inr ⟨rfl, h.near⟩
      · simp only [hfits, Bool.not_false, if_true]
        refine Triple.bind (R := fun _ => Run.Near σ I)
          (Triple.edit fun r h => ⟨.inr (congrArg Session.rollback h.1), h.2⟩) fun _ => ?_
        exact Triple.fail fun r h => .inr ⟨rfl, h⟩

/-- However often a lookup is repeated, its last try is what counts. -/
theorem persist_look_triple (hI : w.Keeps Question.IsLookup I) (words : List Int)
    (read : Store → α) (again made : Nat) {E : Failure → Run ω → Prop} :
    Triple w (Run.At σ I)
      (Patience.attemptFrom Patience.pauseAfter isTransient (fun n => Action.ask (.pause n))
        (Action.attempt (lookOnce words read)) again made)
      (LookEnd σ I (read σ.working)) E := by
  induction again generalizing made with
  | zero => exact Triple.attempt (lookOnce_triple hI words read)
  | succ again ih =>
      apply Triple.bind (Triple.attempt (lookOnce_triple hI words read))
      intro outcome
      by_cases ht : isTransient outcome
      · simp only [ht, if_true]
        -- Only an unavailable store is asked again, and it left the session where it stands.
        have pause : Triple w (LookEnd σ I (read σ.working) outcome)
            (Action.ask (.pause (Patience.pauseAfter made))) (fun _ => Run.At σ I) E := by
          refine (Triple.ask_keeping (q := .pause _) hI trivial).mono ?_ (fun _ _ h => h)
            (fun _ _ h => h)
          intro r h
          cases outcome with
          | ok a => simp [isTransient] at ht
          | error failure =>
              rcases h with h | h
              · exact h.2
              · simp [isTransient, h.1] at ht
        exact Triple.bind pause fun _ => ih (made + 1)
      · simp only [ht, Bool.false_eq_true, if_false]
        exact Triple.pure fun r h => h

theorem look_triple (hI : w.Keeps Question.IsLookup I) (settings : Settings) (words : List Int)
    (read : Store → α) :
    Triple w (Run.At σ I) (look settings words read)
      (fun a r => a = read σ.working ∧ r.At σ I) (fun _ => Run.Near σ I) := by
  unfold look
  -- A session that is blocked stays so, and asks the store for nothing.
  refine Triple.bind (R := fun _ => Run.At σ I) (Triple.unblocked (fun r h _ => h) ?_) fun _ => ?_
  · exact fun r message h _ => h.near
  rw [Patience.retry_standard]
  apply Triple.bind (persist_look_triple hI words read _ _)
  intro outcome
  refine Triple.ofExcept ?_ ?_
  · rintro a rfl r h
    exact h
  · rintro failure rfl r h
    exact h.elim (fun h => h.2.near) (fun h => h.2)

theorem findProject_triple (hI : w.Keeps Question.IsLookup I) (settings : Settings)
    (project : Int) :
    Triple w (Run.At σ I) (findProject settings project)
      (fun found r => σ.working.project? project = some found ∧ r.At σ I)
      (fun _ => Run.Near σ I) := by
  unfold findProject
  apply Triple.bind (look_triple hI settings _ _)
  intro found
  apply Triple.of_fact
  intro hfound
  refine Triple.ofOption ?_ ?_
  · intro p hp r h
    exact ⟨hfound.symm.trans hp, h⟩
  · exact fun _ r h => h.near

/-- The row `row` of the event `event` of a project, as a store has it. -/
def Names (naming : Naming) (store : Store) (project : Int) (event : String) (row : Row) : Prop :=
  ∃ number, eventNumber naming event = .ok number ∧ store.row? project number = some row

theorem Names.mem {naming : Naming} {store : Store} {project : Int} {event : String} {row : Row}
    (h : Names naming store project event row) : row ∈ store.rows := by
  rcases h with ⟨number, -, hrow⟩
  exact Store.mem_of_row? hrow

theorem Names.unique {naming : Naming} {store : Store} {project : Int} {event : String}
    {row row' : Row} (h : Names naming store project event row)
    (h' : Names naming store project event row') : row = row' := by
  obtain ⟨number, hnumber, hrow⟩ := h
  obtain ⟨number', hnumber', hrow'⟩ := h'
  obtain rfl : number = number' := Except.ok.inj (hnumber.symm.trans hnumber')
  exact Option.some.inj (hrow.symm.trans hrow')

theorem id_of_names {naming : Naming} {saved : Store} {project : Int} {event : String} {row : Row}
    (h : Names naming saved project event row) : eventNumber naming event = .ok row.id := by
  rcases h with ⟨number, hnumber, hrow⟩
  rw [(Store.of_row? hrow).2]
  exact hnumber

theorem row?_of_names {naming : Naming} {saved : Store} {project : Int} {event : String} {row : Row}
    (h : Names naming saved project event row) : saved.row? project row.id = some row := by
  rcases h with ⟨number, -, hrow⟩
  rw [(Store.of_row? hrow).2]
  exact hrow

theorem findEvent_triple (hI : w.Keeps Question.IsLookup I) (settings : Settings) (project : Int)
    (event : String) :
    Triple w (Run.At σ I) (findEvent settings project event)
      (fun row r => Names settings.naming σ.working project event row ∧ r.At σ I)
      (fun _ => Run.Near σ I) := by
  unfold findEvent
  apply Triple.bind Triple.ofExcept_knowing.near
  intro number
  apply Triple.of_fact
  intro hnumber
  apply Triple.bind (look_triple hI settings _ _)
  intro found
  apply Triple.of_fact
  intro hfound
  refine Triple.ofOption ?_ ?_
  · intro row hrow r h
    exact ⟨⟨number, hnumber, hfound.symm.trans hrow⟩, h⟩
  · exact fun _ r h => h.near

theorem findEvents_triple (hI : w.Keeps Question.IsLookup I) (settings : Settings)
    (project : Int) :
    Triple w (Run.At σ I) (findEvents settings project)
      (fun rows r => rows = σ.working.rowsOf project ∧ r.At σ I) (fun _ => Run.Near σ I) :=
  look_triple hI settings _ _

theorem projectOf_triple (row : Row) :
    Triple w (Run.At σ I) (projectOf row)
      (fun project r => σ.working.project? row.project = some project ∧ r.At σ I)
      (fun _ => Run.At σ I) := by
  unfold projectOf
  refine Triple.bind (R := fun store r => store = σ.working ∧ r.At σ I)
    (Triple.store fun r h => ⟨congrArg Session.working h.1, h⟩) fun store => ?_
  apply Triple.of_fact
  intro hstore
  subst hstore
  exact Triple.ofOption (fun p hp r h => ⟨hp, h⟩) (fun _ r h => h)

theorem organisation_of_linkOf? {s : Store} {organisation : String} {l : Link}
    (h : s.linkOf? organisation = some l) : l.organisation = organisation :=
  beq_iff_eq.1 (List.find?_some h :)

/-- Each organisation has a link. -/
def Linked (s : Store) (organisations : List String) : Prop :=
  ∀ o ∈ organisations, (s.linkOf? o).isSome

/-- None of some organisations is missing among the links that were found for them exactly when each
has one. -/
theorem missing_eq_nil_iff {s : Store} {organisations : List String} :
    (organisations.filter fun o =>
      !((organisations.filterMap s.linkOf?).map (·.organisation)).contains o) = [] ↔
      Linked s organisations := by
  rw [List.filter_eq_nil_iff]
  constructor
  · intro h o ho
    have hc := h o ho
    simp only [Bool.not_eq_true', Bool.not_eq_false, List.contains_iff_mem, List.mem_map,
      List.mem_filterMap] at hc
    rcases hc with ⟨l, ⟨o', -, hl⟩, hlo⟩
    -- A link tells the organisation that it was found for.
    have : o' = o := (organisation_of_linkOf? hl).symm.trans hlo
    rw [← this, hl]
    rfl
  · intro h o ho
    rcases Option.isSome_iff_exists.1 (h o ho) with ⟨l, hl⟩
    have hmem : o ∈ (organisations.filterMap s.linkOf?).map (·.organisation) :=
      List.mem_map.2 ⟨l, List.mem_filterMap.2 ⟨o, ho, hl⟩, organisation_of_linkOf? hl⟩
    rw [List.contains_iff_mem.2 hmem]
    exact Bool.false_ne_true

/-- Organisations that are all linked have one link each, in their order. -/
theorem map_organisation_of_linked {s : Store} {organisations : List String}
    (h : Linked s organisations) :
    (organisations.filterMap s.linkOf?).map (·.organisation) = organisations := by
  induction organisations with
  | nil => rfl
  | cons o os ih =>
      rcases Option.isSome_iff_exists.1 (h o List.mem_cons_self) with ⟨l, hl⟩
      have rest := ih fun o' ho' => h o' (List.mem_cons_of_mem _ ho')
      simp only [List.filterMap_cons, hl, List.map_cons, rest, organisation_of_linkOf? hl]

theorem linked_eraseDups {s : Store} {organisations : List String} :
    Linked s organisations.eraseDups ↔ Linked s organisations := by
  unfold Linked
  simp only [List.mem_eraseDups]

theorem links_finds (hI : w.Keeps Question.IsLookup I) (settings : Settings)
    (organisations : List String) :
    Triple w (Run.At σ I) (links settings organisations)
      (fun found r => (Linked σ.working organisations ∧
        found = organisations.eraseDups.filterMap σ.working.linkOf?) ∧ r.At σ I)
      (fun _ => Run.Near σ I) := by
  unfold links
  extract_lets distinct rest
  have done : ∀ found : List Link, found = distinct.filterMap σ.working.linkOf? →
      Triple w (Run.At σ I) (rest found)
        (fun found r => (Linked σ.working organisations ∧
          found = distinct.filterMap σ.working.linkOf?) ∧ r.At σ I)
        (fun _ => Run.Near σ I) := by
    rintro found rfl
    dsimp only [rest]
    split
    · rename_i hnil
      have hlinked : Linked σ.working distinct := missing_eq_nil_iff.1 hnil
      exact Triple.pure fun r h => ⟨⟨linked_eraseDups.1 hlinked, rfl⟩, h⟩
    · exact Triple.fail fun r h => h.near
  split
  · rename_i hempty
    -- Without organisations the store is not asked.
    have hnone : [] = distinct.filterMap σ.working.linkOf? := by
      rw [List.isEmpty_iff.1 hempty]
      rfl
    exact done [] hnone
  · apply Triple.bind (look_triple hI settings _ _)
    intro found
    exact Triple.of_fact fun hfound => done found hfound

/-- The links that are found are told by the organisations that they were looked up for. -/
theorem links_triple (hI : w.Keeps Question.IsLookup I) (settings : Settings)
    (organisations : List String) :
    Triple w (Run.At σ I) (links settings organisations)
      (fun found r => (Linked σ.working organisations ∧
        found.map (·.organisation) = organisations.eraseDups) ∧ r.At σ I)
      (fun _ => Run.Near σ I) := by
  refine (links_finds hI settings organisations).mono_post ?_
  rintro found r ⟨⟨hlinked, rfl⟩, h⟩
  exact ⟨⟨hlinked, map_organisation_of_linked (linked_eraseDups.2 hlinked)⟩, h⟩

theorem findLink_triple (hI : w.Keeps Question.IsLookup I) (settings : Settings)
    (organisation : String) :
    Triple w (Run.At σ I) (findLink settings organisation)
      (fun link r => σ.working.linkOf? organisation = some link ∧ r.At σ I)
      (fun _ => Run.Near σ I) := by
  unfold findLink
  apply Triple.bind (look_triple hI settings _ _)
  intro found
  apply Triple.of_fact
  intro hfound
  exact Triple.ofOption (fun l hl r h => ⟨hfound.symm.trans hl, h⟩) (fun _ r h => h.near)

theorem findLinkOfCompany_triple (hI : w.Keeps Question.IsLookup I) (settings : Settings)
    (company : Int) :
    Triple w (Run.At σ I) (findLinkOfCompany settings company)
      (fun link r => σ.working.linkOfCompany? company = some link ∧ r.At σ I)
      (fun _ => Run.Near σ I) := by
  unfold findLinkOfCompany
  apply Triple.bind (look_triple hI settings _ _)
  intro found
  apply Triple.of_fact
  intro hfound
  exact Triple.ofOption (fun l hl r h => ⟨hfound.symm.trans hl, h⟩) (fun _ r h => h.near)

/-! ## Edits -/

theorem stage_triple (row : Row) {E : Failure → Run ω → Prop} :
    Triple w (Run.At σ I) (stage row)
      (fun _ => Run.At ⟨σ.saved, σ.working.replace row, σ.blocked⟩ I) E :=
  Triple.edit fun r h => ⟨by rw [h.1], h.2⟩

/-- A staged row takes the place of the one that was staged under its number before. -/
theorem restage_triple {a b : Row} (h : a.id = b.id) {E : Failure → Run ω → Prop} :
    Triple w (Run.At ⟨saved, saved.replace a, none⟩ I) (stage b)
      (fun _ => Run.At ⟨saved, saved.replace b, none⟩ I) E := by
  rw [← Store.replace_replace h]
  exact stage_triple (σ := ⟨saved, saved.replace a, none⟩) b

/-- A staged row takes the place of one that was added under its number. -/
theorem stage_added_triple {a b : Row} {before : Store} (ha : a.id = saved.nextId)
    (hab : b.id = a.id) {E : Failure → Run ω → Prop} :
    Triple w (Run.At ⟨before, saved.add a, none⟩ I) (stage b)
      (fun _ => Run.At ⟨before, saved.add b, none⟩ I) E := by
  rw [← Store.replace_add ha hab]
  exact stage_triple (σ := ⟨before, saved.add a, none⟩) b

/-- The last thing asked was whether the store takes a commit. -/
def Run.EndsInCommit (r : Run ω) : Prop :=
  r.asked.getLast? = some .commit

instance (r : Run ω) : Decidable r.EndsInCommit :=
  inferInstanceAs (Decidable (_ = _))

/-- What comes of a commit is settled by the answer of the store, for the edits of the session. -/
theorem commit_triple (hI : w.Keeps (· = .commit) I) {E : Failure → Run ω → Prop} :
    Triple w (Run.At σ I) commit
      (fun v r => (∃ answer, v = verdict σ.working answer) ∧ r.At σ I ∧ r.EndsInCommit) E := by
  unfold commit
  refine Triple.bind (R := fun _ r => r.At σ I ∧ r.EndsInCommit) ?_ fun answer => ?_
  · exact Triple.ask fun r h => ⟨⟨h.1, hI .commit rfl _ _ h.2⟩, List.getLast?_concat⟩
  refine Triple.bind (R := fun edited r => edited = σ.working ∧ r.At σ I ∧ r.EndsInCommit)
    (Triple.store fun r h => ⟨congrArg Session.working h.1.1, h⟩) fun edited => ?_
  apply Triple.of_fact
  rintro rfl
  exact Triple.pure fun r h => ⟨⟨answer, rfl⟩, h⟩

theorem save_triple (hI : w.Keeps (· = .commit) I) :
    Triple w (Run.At σ I) save (fun _ => Run.At (.fresh σ.working) I)
      (fun _ r => r.Kept σ.saved I ∧ r.EndsInCommit) := by
  unfold save
  apply Triple.bind (commit_triple hI)
  intro v
  apply Triple.of_fact
  intro _
  -- Unless all is done, the edits are dropped: by a rollback, or with the rows of the session.
  cases v with
  | done => exact Triple.edit fun r h => ⟨congrArg Session.commit h.1.1, h.1.2⟩
  | refused failure => exact Triple.edit_fail fun r h => ⟨h.1.kept, h.2⟩
  | unsent failure => exact Triple.edit_fail fun r h => ⟨h.1.kept, h.2⟩

/-- A new row is in the saved store under the next number, or nothing was saved. -/
theorem insert_triple (hI : w.Keeps (· = .commit) I) (draft : Row) :
    Triple w (Run.At (.fresh saved) I) (insert draft)
      (fun row r => row = { draft with id := saved.nextId } ∧ r.At (.fresh (saved.add row)) I)
      (fun _ r => r.At (.fresh saved) I ∧ r.EndsInCommit) := by
  unfold insert
  refine Triple.bind (R := fun store r => store = saved ∧ r.At (.fresh saved) I)
    (Triple.store fun r h => ⟨congrArg Session.working h.1, h⟩) fun store => ?_
  apply Triple.of_fact
  intro hstore
  subst hstore
  let row : Row := { draft with id := store.nextId }
  refine Triple.bind (R := fun _ => Run.At ⟨store, store.add row, none⟩ I) ?_ fun _ => ?_
  · exact Triple.edit fun r h => ⟨by rw [h.1]; rfl, h.2⟩
  apply Triple.bind (commit_triple hI)
  intro v
  apply Triple.of_fact
  intro _
  have undone : ∀ r : Run ω, r.At ⟨store, store.add row, none⟩ I ∧ r.EndsInCommit →
      ({ r with session := r.session.rollback } : Run ω).At (.fresh store) I ∧ r.EndsInCommit :=
    fun r h => ⟨⟨congrArg Session.rollback h.1.1, h.1.2⟩, h.2⟩
  cases v with
  | done =>
      refine Triple.bind (R := fun _ => Run.At (.fresh (store.add row)) I) ?_ fun _ => ?_
      · exact Triple.edit fun r h => ⟨congrArg Session.commit h.1.1, h.1.2⟩
      · exact Triple.pure fun r h => ⟨rfl, h⟩
  | refused failure => exact Triple.edit_fail undone
  | unsent failure => exact Triple.edit_fail undone

end Desk
end TenderDesk
