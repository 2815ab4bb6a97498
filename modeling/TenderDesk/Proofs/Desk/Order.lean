import TenderDesk.Proofs.Desk.History
import TenderDesk.Proofs.Number.Reading

/-!
# Order — the table that a desk keeps is in order and can be read

* `Store.Ordered`: the rows stand in the ascending order of their numbers, and all public ids are
  formed alike. Every turn keeps the order, and adds one number at most (`Turn.ordered`).
* Whatever is saved has numbers that fit into the words of the store (`visit_fits`), since no
  commit is done that does not fit.
* The public id of an event names its row (`names_publicId`).
-/

namespace TenderDesk

/-! ## Numbers of rows -/

namespace Store

variable {s : Store} {row : Row} {naming : Naming}

structure Ordered (naming : Naming) (s : Store) : Prop where
  ascending : (s.rows.map (·.id)).Pairwise (· < ·)
  named : ∀ row ∈ s.rows, row.naming = naming

theorem nextId_eq (s : Store) :
    s.nextId = (s.rows.map (·.id)).foldl (fun next id => max next (id + 1)) 1 := by
  unfold nextId
  rw [List.foldl_map]

theorem nextId_replace (s : Store) (row : Row) : (s.replace row).nextId = s.nextId := by
  rw [nextId_eq, nextId_eq, replace_ids]

theorem nextId_add (h : row.id = s.nextId) : (s.add row).nextId = s.nextId + 1 := by
  have hstep : (s.add row).nextId = max s.nextId (row.id + 1) := by
    simp [nextId, add, List.foldl_append]
  rw [hstep, h]
  exact Nat.max_eq_right (Nat.le_succ _)

namespace Ordered

theorem of_rows_eq_nil (h : s.rows = []) : s.Ordered naming where
  ascending := by simp [h]
  named := by simp [h]

theorem numbered (h : s.Ordered naming) : s.Numbered :=
  h.ascending.imp fun hlt => Nat.ne_of_lt hlt

theorem replace (h : s.Ordered naming) (hrow : row.naming = naming) :
    (s.replace row).Ordered naming where
  ascending := by
    rw [replace_ids]
    exact h.ascending
  named := by
    intro r hr
    rcases mem_replace hr with rfl | ⟨hmem, -⟩
    · exact hrow
    · exact h.named r hmem

theorem add (h : s.Ordered naming) (hid : row.id = s.nextId) (hrow : row.naming = naming) :
    (s.add row).Ordered naming where
  ascending := by
    unfold Store.add
    rw [List.map_append, List.map_singleton]
    refine List.pairwise_append.2 ⟨h.ascending, List.pairwise_singleton _ _, ?_⟩
    -- The new number is larger than every number in use.
    intro id hmem new hnew
    obtain ⟨r, hr, rfl⟩ := List.mem_map.1 hmem
    rw [List.mem_singleton.1 hnew, hid]
    exact id_lt_nextId hr
  named := by
    intro r hr
    rcases mem_add.1 hr with hmem | rfl
    · exact h.named r hmem
    · exact hrow

/-- The rows of a project stand in the order of their numbers as well. -/
theorem rowsOf (h : s.Ordered naming) (project : Int) :
    (s.rowsOf project).Pairwise fun a b => a.id < b.id :=
  (List.pairwise_map.1 h.ascending).filter _

end Ordered

theorem mem_rowsOf {project : Int} :
    row ∈ s.rowsOf project ↔ row ∈ s.rows ∧ row.project = project := by
  simp [rowsOf]

theorem row?_of_mem (h : s.Numbered) {project : Int} (hrow : row ∈ s.rowsOf project) :
    s.row? project row.id = some row := by
  obtain ⟨hmem, rfl⟩ := mem_rowsOf.1 hrow
  cases hfound : s.row? row.project row.id with
  | none =>
      have hmiss := List.find?_eq_none.1 hfound row hmem
      simp at hmiss
  | some other =>
      have hid : other.id = row.id := (of_row? hfound).2
      rw [h.eq_of_id_eq (mem_of_row? hfound) hmem hid]

end Store

namespace Desk

/-! ## Public ids -/

theorem eventNumber_publicId {row : Row} (h : row.id < 2 ^ 63) :
    eventNumber row.naming row.publicId = .ok row.id := by
  have htext : row.publicId.toList = row.naming.stem.toList ++ Text.digits row.id := by
    simp [Row.publicId, Text.digits, Nat.repr]
  have hlength : (Text.digits row.id).length ≤ Number.maxDigits := by
    have hpow : row.id < 10 ^ 19 := Nat.lt_trans h (by decide)
    exact Nat.le_trans ((Text.length_digits_le_iff (by decide)).2 hpow) (by decide)
  have hdigits : (Text.digits row.id).all Text.isDigit = true :=
    List.all_eq_true.2 fun _ => Text.isDigit_of_mem_digits
  have hsome : (Text.digits row.id).isEmpty = false := by
    simp [Text.digits_ne_nil]
  have hstem : row.naming.stem.toList.isPrefixOf
      (row.naming.stem.toList ++ Text.digits row.id) = true := by
    simp
  unfold eventNumber
  simp only [htext, List.drop_left, hstem, hdigits, hsome, Bool.not_false, Bool.and_self, if_true,
    if_neg (Nat.not_lt.2 hlength), Text.digitsValue_digits]

theorem names_publicId {saved : Store} {naming : Naming} (h : saved.Ordered naming)
    {project : Int} {row : Row} (hrow : row ∈ saved.rowsOf project) (hid : row.id < 2 ^ 63) :
    Names naming saved project row.publicId row := by
  refine ⟨row.id, ?_, Store.row?_of_mem h.numbered hrow⟩
  rw [← h.named row (Store.mem_rowsOf.1 hrow).1]
  exact eventNumber_publicId hid

/-! ## Turns -/

section

open Sourcing

variable {s : Settings} {saved saved' : Store} {call : Call} {ws : List Write}

theorem Equipped.naming_eq {row row' : Row} {kind : EventKind} {principal : String}
    (h : Equipped row kind principal ws row') : row'.naming = row.naming := by
  cases h with
  | assessed _ id organisations => rw [withSuppliers_eq]
  | recorded => rfl
  | unowned => rfl

/-- A turn keeps the order of the rows, and adds one number at most. -/
theorem Turn.ordered (h : Turn s saved call ws saved') (hs : saved.Ordered s.naming) :
    saved'.Ordered s.naming ∧ saved'.nextId ≤ saved.nextId + 1 := by
  have still : saved.Ordered s.naming ∧ saved.nextId ≤ saved.nextId + 1 := ⟨hs, Nat.le_succ _⟩
  have replaced : ∀ {row : Row}, row.naming = s.naming →
      (saved.replace row).Ordered s.naming ∧ (saved.replace row).nextId ≤ saved.nextId + 1 := by
    intro row hrow
    rw [Store.nextId_replace]
    exact ⟨hs.replace hrow, Nat.le_succ _⟩
  cases h with
  | still | unsaved | listed | delisted | uploaded | published => exact still
  | opened p hproject name hname hrow =>
      exact ⟨hs.add rfl hrow.naming_eq, Nat.le_of_eq (Store.nextId_add rfl)⟩
  | edited hbefore hrow hrow' hedit =>
      have hsame := hrow'.same.2.1.trans hrow.naming
      exact replaced (hsame.trans (hs.named _ hbefore.mem))
  | selected hrow hkeeper =>
      have hnamed := hs.named _ hrow.mem
      rw [withSuppliers_eq]
      exact replaced hnamed
  | deselected hrow hkeeper hmem =>
      have hnamed := hs.named _ hrow.mem
      exact replaced hnamed

/-- Calls that may save numbers which the store did not hold. -/
def Call.Saves : Call → Prop
  | .createEvent _ _ _ _ | .updateEvent _ _ _ _ => True
  | _ => False

/-- A turn of any other call saves no new number. -/
theorem Turn.fits (h : Turn s saved call ws saved') (hfits : saved.fits = true)
    (hcall : ¬call.Saves) : saved'.fits = true := by
  have found : ∀ {project : Int} {event : String} {row : Row},
      Names s.naming saved project event row → row.fits = true := fun hnames =>
    Store.fits_iff.1 hfits _ hnames.mem
  cases h with
  | still | listed | delisted | uploaded | published => exact hfits
  | opened | edited | unsaved => exact absurd trivial hcall
  | selected hrow hkeeper =>
      have hrow := found hrow
      rw [withSuppliers_eq]
      exact Store.fits_replace hfits hrow
  | deselected hrow hkeeper hmem =>
      have hrow := found hrow
      exact Store.fits_replace hfits hrow

end

/-! ## Saving -/

section

variable {ω α : Type} {w : Surroundings ω} {s : Settings} {saved : Store}

/-- Nothing is known. -/
abbrev anything : Trail ω :=
  fun _ _ => True

theorem keeps_anything {S : Question → Prop} : w.Keeps S anything :=
  fun _ _ _ _ _ => trivial

theorem sends_anything (request : Sourcing.Request) : Sends w request anything fun _ => anything :=
  .of_keeps (S := fun _ => True) keeps_anything trivial

/-- All that is saved fits into the words of the store. -/
def Run.Fits (r : Run ω) : Prop :=
  r.session.saved.fits = true

theorem Run.Near.fits {σ : Session} (hfits : σ.saved.fits = true) {r : Run ω}
    (h : r.Near σ anything) : r.Fits := by
  unfold Run.Fits
  rw [h.saved]
  exact hfits

theorem fits_of_done {edited : Store} {answer : Option Refusal}
    (h : verdict edited answer = .done) : edited.fits = true := by
  unfold verdict at h
  repeat' split at h
  all_goals first | assumption | cases h

/-- What a commit is done for fits. -/
theorem commit_fits :
    Triple w Run.Fits commit
      (fun v r => (v = .done → r.session.working.fits = true) ∧ r.Fits) (fun _ => Run.Fits) := by
  unfold commit
  refine Triple.bind (Triple.ask (Q := fun _ => Run.Fits) fun _ h => h) fun answer => ?_
  refine Triple.bind (R := fun edited r => r.session.working = edited ∧ r.Fits)
    (Triple.store fun _ h => ⟨rfl, h⟩) fun edited => ?_
  refine Triple.pure ?_
  rintro r ⟨rfl, h⟩
  exact ⟨fits_of_done, h⟩

/-- A commit saves nothing that does not fit. -/
theorem save_fits : Triple w Run.Fits save (fun _ => Run.Fits) (fun _ => Run.Fits) := by
  unfold save
  apply Triple.bind commit_fits
  intro v
  cases v with
  | done => exact Triple.edit fun _ h => h.1 rfl
  | refused failure => exact Triple.edit_fail fun _ h => h.2
  | unsent failure => exact Triple.edit_fail fun _ h => h.2

theorem insert_fits (draft : Row) :
    Triple w Run.Fits (insert draft) (fun _ => Run.Fits) (fun _ => Run.Fits) := by
  refine Triple.bind (R := fun _ => Run.Fits) (Triple.store fun _ h => h) fun _ => ?_
  refine Triple.bind (R := fun _ => Run.Fits) (Triple.edit fun _ h => h) fun _ => ?_
  apply Triple.bind commit_fits
  intro v
  cases v with
  | done =>
      exact Triple.bind (Triple.edit fun _ h => h.1 rfl) fun _ => Triple.pure fun _ h => h
  | refused failure => exact Triple.edit_fail fun _ h => h.2
  | unsent failure => exact Triple.edit_fail fun _ h => h.2

theorem openEvent_fits (hfits : saved.fits = true) (project : Project) (row : Row)
    (kind : EventKind) (asked : Option Int) (principal : String) :
    Triple w (Run.At (.fresh saved) anything) (openEvent s project row kind asked principal)
      (fun _ => Run.Fits) (fun _ => Run.Fits) := by
  have start : ∀ r : Run ω, r.At (.fresh saved) anything → r.Fits := fun _ h => h.near.fits hfits
  have ended : ∀ (_ : Failure) (r : Run ω), r.Near (.fresh saved) anything → r.Fits :=
    fun _ _ h => h.fits hfits
  have added : ∀ draft, Triple w (Run.At (.fresh saved) anything) (insert draft)
      (fun _ => Run.Fits) (fun _ => Run.Fits) := fun draft =>
    (insert_fits draft).mono start (fun _ _ h => h) (fun _ _ h => h)
  unfold openEvent
  cases kind.owner with
  | assessment =>
      refine Triple.bind ((lotLinks_triple keeps_anything keeps_anything s project).mono_fail ended)
        fun links => ?_
      refine Triple.bind ((assessmentFor_triple (S := Question.IsService) keeps_anything
        (fun _ => trivial) trivial asked).near.mono_fail ended) fun id => ?_
      exact added _
  | platform =>
      refine Triple.bind (R := fun _ => Run.At (.fresh saved) anything) ?_ added
      refine (createRecord_triple (J := fun _ _ => anything) keeps_anything keeps_anything s row
        (fun rfx _ => sends_anything (creation rfx)) (Triple.pure fun _ h => h) principal).mono
          (fun _ h => h) ?_ ended
      rintro row' r ⟨-, -, -, -, h⟩
      exact h
  | nobody =>
      cases asked with
      | some id =>
          refine Triple.bind ((checkAssessment_triple (S := Question.IsService) keeps_anything
            trivial).near.mono_fail ended) fun id => ?_
          exact added _
      | none => exact added _

theorem createEvent_fits (hfits : saved.fits = true) (project : Int) (request : NewEvent)
    (downSelected : Bool) (principal : String) :
    Triple w (Run.At (.fresh saved) anything)
      (createEvent s project request downSelected principal) (fun _ => Run.Fits)
      (fun _ => Run.Fits) := by
  unfold createEvent
  apply Triple.bind ((findProject_triple keeps_anything s project).mono_fail
    fun _ _ h => h.fits hfits)
  intro p
  apply Triple.of_fact
  intro _
  apply Triple.bind (Triple.ofExcept_keeping.mono_fail fun _ _ h => h.near.fits hfits)
  intro name
  apply Triple.bind (openEvent_fits hfits p _ _ request.assessment principal)
  intro row
  exact Triple.ofExcept_keeping

/-- An update has saved nothing before it saves its edits. -/
theorem changeEvent_fits (hfits : saved.fits = true) (project : Int) (event : String)
    (edit : EventEdit) (principal : String) :
    Triple w (Run.At (.fresh saved) anything) (changeEvent s project event edit principal)
      (fun _ => Run.Fits) (fun _ => Run.Fits) := by
  unfold changeEvent
  apply Triple.bind ((findEvent_triple keeps_anything s project event).mono_fail
    fun _ _ h => h.fits hfits)
  intro before
  apply Triple.of_fact
  intro _
  refine Triple.bind ((stageEdits_triple keeps_anything before edit principal).mono_fail
    fun _ _ h => h.near.fits hfits) fun row => ?_
  apply Triple.of_fact
  intro _
  refine Triple.bind (R := fun _ => Run.Fits) ?_ fun row' => ?_
  · refine (Triple.onFailure (updateRecord_brings (L := fun _ => anything) keeps_anything
      keeps_anything s (fun _ _ _ => sends_anything _) (fun _ _ _ _ => sends_anything _) principal)
        fun _ _ h => h.fits hfits).mono_post ?_
    rintro row' r ⟨-, -, h⟩
    exact h.near.fits hfits
  · unfold saveEdits
    split
    · exact Triple.bind (Triple.edit fun _ h => h) fun _ => Triple.bind save_fits fun _ =>
        Triple.pure fun _ h => h
    · exact Triple.pure fun _ h => h

theorem updateEvent_fits (hfits : saved.fits = true) (project : Int) (event : String)
    (edit : EventEdit) (principal : String) :
    Triple w (Run.At (.fresh saved) anything) (updateEvent s project event edit principal)
      (fun _ => Run.Fits) (fun _ => Run.Fits) := by
  -- Telling the status asks and leaves the session alone, wherever it stands.
  have told : ∀ row, Triple w Run.Fits (statusOf s row principal) (fun _ => Run.Fits)
      (fun _ => Run.Fits) := by
    intro row r hr
    have hasked : ∀ record, row.record? = some record → True := fun _ _ => trivial
    have hstatus := statusOf_triple (I := anything) (P := fun _ => True)
      (keeps_anything (w := w)) s hasked principal r ⟨rfl, trivial⟩
    rcases hrun : statusOf s row principal w r with ⟨_ | _, r'⟩ <;> rw [hrun] at hstatus <;>
      exact hstatus.near.fits hr
  rw [updateEvent_eq]
  exact Triple.bind (changeEvent_fits hfits project event edit principal) fun row =>
    Triple.bind (told row) fun _ => Triple.ofExcept_keeping

/-- Whatever a visit saves fits into the words of the store. -/
theorem visit_fits (s : Settings) (w : Surroundings ω) (call : Call) {saved : Store}
    (hfits : saved.fits = true) (m : ω) :
    (call.visit s w saved m).2.session.saved.fits = true := by
  have start : (Run.start saved m).At (.fresh saved) anything := ⟨rfl, trivial⟩
  have ended : ∀ {α : Type} {x : Action ω α}, Triple w (Run.At (.fresh saved) anything) x
      (fun _ => Run.Fits) (fun _ => Run.Fits) → (x w (.start saved m)).2.Fits := by
    intro α x hx
    rcases hrun : x w (.start saved m) with ⟨_ | _, r⟩
    · exact hx.of_error start hrun
    · exact hx.of_ok start hrun
  by_cases hsaves : call.Saves
  · cases call with
    | createEvent project request downSelected principal =>
        exact ended (createEvent_fits hfits project request downSelected principal)
    | updateEvent project event edit principal =>
        exact ended (updateEvent_fits hfits project event edit principal)
    | _ => cases hsaves
  · rcases visit_turn s w call saved m with ⟨ws, turn, -⟩ | ⟨-, hsaved, -⟩
    · exact turn.fits hfits hsaves
    · rw [hsaved]
      exact hfits

end

/-! ## Histories -/

namespace World

variable {ω : Type} {s : Settings} {w : Surroundings ω}

theorem opening_ordered (naming : Naming) (projects : List Project) (links : List Link) (m : ω) :
    (opening projects links m).saved.Ordered naming :=
  .of_rows_eq_nil rfl

theorem visit_ordered {x : World ω} (h : x.saved.Ordered s.naming) (call : Call) :
    (x.visit s w call).saved.Ordered s.naming ∧
      (x.visit s w call).saved.nextId ≤ x.saved.nextId + 1 := by
  rcases visit_cases s w x call with ⟨hturn, -⟩ | ⟨-, hsame⟩
  · exact hturn.ordered h
  · rw [hsame]
    exact ⟨h, Nat.le_succ _⟩

/-- The rows of every world stand in order, and each call adds one number at most. -/
theorem visits_ordered {x : World ω} (h : x.saved.Ordered s.naming) (calls : List Call) :
    (x.visits s w calls).saved.Ordered s.naming ∧
      (x.visits s w calls).saved.nextId ≤ x.saved.nextId + calls.length := by
  induction calls generalizing x with
  | nil => exact ⟨h, Nat.le_refl _⟩
  | cons call calls ih =>
      obtain ⟨hstep, hnext⟩ := visit_ordered (w := w) h call
      obtain ⟨hordered, hlast⟩ := ih hstep
      refine ⟨hordered, Nat.le_trans hlast ?_⟩
      rw [List.length_cons]
      omega

theorem visits_fits {x : World ω} (h : x.saved.fits = true) (calls : List Call) :
    (x.visits s w calls).saved.fits = true :=
  visits_induction (I := fun y => y.saved.fits = true)
    (fun y call hy => visit_fits s w call hy y.memory) h calls

end World

end Desk
end TenderDesk
