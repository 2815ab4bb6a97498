import TenderDesk.Proofs.Desk.Agreement

/-!
# Attribution — whoever changes an event signs it

* `Call.principal?` is on whose behalf a call is made. `Call.leaves` are the selections of an event
  that stay while the call changes it.
* `Amended` says of a row before and after a call how the change is signed, and `Authored` the same
  of a new row. `Attributed` says it of all rows of a store.
* Whatever a turn writes is attributed (`Turn.attributed`), so every call of a run leaves a store
  that is, whether the call succeeds or fails after its commit (`visits_attributed`).
-/

namespace TenderDesk
namespace Desk

open Sourcing

namespace Call

/-- On whose behalf a call is made, if it names anybody. -/
def principal? : Call → Option String
  | .createEvent _ _ _ principal | .updateEvent _ _ _ principal | .getEvent _ _ principal
  | .listEvents _ principal | .publishEvent _ _ _ principal | .addSuppliers _ _ _ _ principal
  | .deleteSupplier _ _ _ principal => some principal
  | .listSuppliers _ _ | .listDocuments _ _ | .uploadDocument _ _ _ | .getDocument _ _ _ => none

/-- The selections of an event that stay while a call changes it: all of them, but for an addition
that replaces them, and for the one that is deleted. -/
def leaves (row : Row) : Call → List Selection
  | .addSuppliers _ _ _ true _ => []
  | .deleteSupplier _ _ organisation _ =>
      row.selections.eraseP fun s => s.organisation == organisation
  | _ => row.selections

/-- A call signs its event even where it finds nothing to change: an update that has edits, or an
addition to a list in the table that succeeds. -/
def Signs (row : Row) (succeeded : Bool) : Call → Prop
  | .updateEvent _ _ edit _ => isEdit edit
  | .addSuppliers _ _ _ _ _ => succeeded ∧ keeper row = .ok .table
  | _ => False

end Call

/-- Selections were added to others on behalf of the principal of a call. No organisation is added
whose selection stays. -/
def Adds (call : Call) (kept added : List Selection) : Prop :=
  ∀ x ∈ added, call.principal? = some x.createdBy ∧ x.organisation ∉ kept.map (·.organisation)

/-- A row was changed on behalf of the principal of a call. -/
structure Amended (call : Call) (succeeded : Bool) (before after : Row) : Prop where
  creator : after.createdBy = before.createdBy
  updater : call.principal? = some after.updatedBy
  selections : ∃ added, after.selections = call.leaves before ++ added ∧
    Adds call (call.leaves before) added
  signature : after = { before with updatedBy := after.updatedBy } → call.Signs before succeeded

/-- A row was created on behalf of the principal of a call. -/
structure Authored (call : Call) (row : Row) : Prop where
  creator : call.principal? = some row.createdBy
  updater : call.principal? = some row.updatedBy
  selections : Adds call [] row.selections

/-- All that differs between two stores is signed by the principal of a call. No row is lost, one
that is there before and after is the same or was amended, and all others are authored. -/
structure Attributed (call : Call) (succeeded : Bool) (saved saved' : Store) : Prop where
  kept : ∀ row ∈ saved.rows, ∃ row' ∈ saved'.rows, row'.id = row.id
  old : ∀ row ∈ saved.rows, ∀ row' ∈ saved'.rows, row'.id = row.id →
    row' = row ∨ Amended call succeeded row row'
  new : ∀ row' ∈ saved'.rows, (∀ row ∈ saved.rows, row'.id ≠ row.id) → Authored call row'

variable {ω : Type} {w : Surroundings ω} {m : ω} {s : Settings} {saved saved' : Store} {call : Call}
  {succeeded : Bool} {before row : Row}

/-! ## Stores -/

theorem attributed_refl (hs : saved.Numbered) : Attributed call succeeded saved saved where
  kept row hrow := ⟨row, hrow, rfl⟩
  old _ hrow _ hrow' hid := .inl (hs.eq_of_id_eq hrow' hrow hid)
  new row' hrow' hnone := absurd rfl (hnone row' hrow')

theorem attributed_add (hs : saved.Numbered) (hid : row.id = saved.nextId)
    (h : Authored call row) : Attributed call succeeded saved (saved.add row) where
  kept r hr := ⟨r, Store.mem_add.2 (.inl hr), rfl⟩
  old r hr r' hr' hsame := by
    rcases Store.mem_add.1 hr' with hmem | rfl
    · exact .inl (hs.eq_of_id_eq hmem hr hsame)
    · -- The number of the new row is larger than all others.
      have hlt : r.id < saved.nextId := Store.id_lt_nextId hr
      exact absurd (hsame.symm.trans hid) (Nat.ne_of_lt hlt)
  new r' hr' hnone := by
    rcases Store.mem_add.1 hr' with hmem | rfl
    · exact absurd rfl (hnone r' hmem)
    · exact h

theorem attributed_replace (hs : saved.Numbered) (hmem : before ∈ saved.rows)
    (hid : row.id = before.id) (h : Amended call succeeded before row) :
    Attributed call succeeded saved (saved.replace row) where
  kept r hr := by
    by_cases hr' : r.id = row.id
    · exact ⟨row, Store.mem_replace_of_mem hr hr', hr'.symm⟩
    · exact ⟨r, List.mem_map.2 ⟨r, hr, if_neg hr'⟩, rfl⟩
  old r hr r' hr' hsame := by
    rcases Store.mem_replace hr' with rfl | ⟨hold, -⟩
    · obtain rfl : r = before := hs.eq_of_id_eq hr hmem (hsame.symm.trans hid)
      exact .inr h
    · exact .inl (hs.eq_of_id_eq hold hr hsame)
  new r' hr' hnone := by
    rcases Store.mem_replace hr' with rfl | ⟨hold, -⟩
    · exact absurd hid (hnone before hmem)
    · exact absurd rfl (hnone r' hold)

/-! ## Selections -/

theorem select_adds (row : Row) (organisations : List String) (principal : String) :
    ∃ added, (row.select organisations principal).selections = row.selections ++ added ∧
      ∀ x ∈ added, x.createdBy = principal ∧ x.organisation ∉ row.organisations := by
  induction organisations generalizing row with
  | nil => exact ⟨[], (List.append_nil _).symm, List.forall_mem_nil _⟩
  | cons o os ih =>
      -- The first organisation is selected already, or it is selected now.
      by_cases ho : o ∈ row.organisations
      · have hrow : row.select (o :: os) principal = row.select os principal := by
          unfold Row.select
          rw [List.foldl_cons, if_pos (List.contains_iff_mem.2 ho)]
        rw [hrow]
        exact ih row
      · let row' : Row := { row with selections := row.selections ++ [⟨o, principal⟩] }
        have hrow : row.select (o :: os) principal = row'.select os principal := by
          unfold Row.select
          rw [List.foldl_cons, if_neg fun hc => ho (List.contains_iff_mem.1 hc)]
        rcases ih row' with ⟨added, hadded, hfresh⟩
        refine ⟨⟨o, principal⟩ :: added, ?_, ?_⟩
        · rw [hrow, hadded, List.append_assoc]
          rfl
        · intro x hx
          rcases List.mem_cons.1 hx with rfl | hx
          · exact ⟨rfl, ho⟩
          · refine ⟨(hfresh x hx).1, fun hold => (hfresh x hx).2 ?_⟩
            unfold Row.organisations
            rw [List.map_append]
            exact List.mem_append_left _ hold

theorem withSuppliers_adds (row : Row) (organisations : List String) (overwrite : Bool)
    (principal : String) :
    let kept := if overwrite then [] else row.selections
    ∃ added, (withSuppliers row organisations overwrite principal).selections = kept ++ added ∧
      ∀ x ∈ added, x.createdBy = principal ∧ x.organisation ∉ kept.map (·.organisation) := by
  cases overwrite with
  | false => exact select_adds row organisations principal
  | true => exact select_adds { row with selections := [] } organisations principal

/-! ## Turns -/

/-- What was opened for a new event is signed by whoever the event was drafted for. -/
theorem Equipped.authored {kind : EventKind} {principal : String} {ws : List Write}
    {draft row : Row} (h : Equipped draft kind principal ws row)
    (hprincipal : call.principal? = some principal) (hcreator : draft.createdBy = principal)
    (hupdater : draft.updatedBy = principal) (hnone : draft.selections = []) :
    Authored call row := by
  have unselected : Adds call [] draft.selections := by
    rw [hnone]
    exact List.forall_mem_nil _
  cases h with
  | assessed howner id organisations =>
      rcases withSuppliers_adds { draft with assessment := some id } organisations true principal
        with ⟨added, hadded, hfresh⟩
      rw [withSuppliers_eq]
      refine ⟨hprincipal.trans (congrArg some hcreator.symm), hprincipal, ?_⟩
      show Adds call [] (withSuppliers _ _ _ _).selections
      rw [hadded]
      intro x hx
      exact ⟨hprincipal.trans (congrArg some (hfresh x hx).1.symm), List.not_mem_nil⟩
  | recorded | unowned =>
      exact ⟨hprincipal.trans (congrArg some hcreator.symm),
        hprincipal.trans (congrArg some hupdater.symm), unselected⟩

/-- An edit and what it does to the platform leave the creator and the selections alone. -/
theorem Brought.unsigned {edit : EventEdit} {ws : List Write} {row' : Row}
    (h : Brought before edit row ws row') (hrow : Revised before edit row) :
    row'.createdBy = before.createdBy ∧ row'.selections = before.selections := by
  have hrevised : row.createdBy = before.createdBy ∧ row.selections = before.selections := by
    rw [hrow.rest]
    exact ⟨rfl, rfl⟩
  cases h <;> exact hrevised

/-- The deletion of a selection that is there changes the list. -/
theorem eraseP_ne_self {organisation : String} (h : organisation ∈ row.organisations) :
    row.selections.eraseP (fun s => s.organisation == organisation) ≠ row.selections := by
  intro heq
  rcases List.mem_map.1 h with ⟨x, hx, hname⟩
  have hlength := List.length_eraseP_of_mem hx (p := fun s => s.organisation == organisation)
    (beq_iff_eq.2 hname)
  have hpos : 0 < row.selections.length := List.length_pos_of_mem hx
  rw [heq] at hlength
  omega

/-- Whatever a turn writes is signed by the principal of its call. -/
theorem Turn.attributed {ws : List Write} (h : Turn s saved call ws saved') (hs : saved.Numbered)
    (hok : ∀ project event refs overwrite principal,
      call = .addSuppliers project event refs overwrite principal → succeeded) :
    Attributed call succeeded saved saved' := by
  cases h with
  | still | unsaved | listed | delisted | uploaded | published => exact attributed_refl hs
  | opened p hproject name hname hrow =>
      rename_i project request downSelected principal row
      have hauthored : Authored (.createEvent project request downSelected principal) row :=
        hrow.authored rfl rfl rfl rfl
      exact attributed_add hs rfl ⟨hauthored.creator, hauthored.updater, hauthored.selections⟩
  | edited hbefore hrow hrow' hedit =>
      rcases hrow'.unsigned hrow with ⟨hcreator, hselections⟩
      refine attributed_replace hs hbefore.mem (hrow'.same.1.trans hrow.id) ?_
      exact {
        creator := hcreator
        updater := rfl
        selections := ⟨[], hselections.trans (List.append_nil _).symm, List.forall_mem_nil _⟩
        signature := fun _ => hedit }
  | selected hrow hkeeper =>
      rename_i project event refs overwrite principal row
      rcases withSuppliers_adds row (refs.map (·.id)).eraseDups overwrite principal
        with ⟨added, hadded, hfresh⟩
      have hleaves : (Call.addSuppliers project event refs overwrite principal).leaves row =
          if overwrite then [] else row.selections := by
        cases overwrite <;> rfl
      rw [withSuppliers_eq]
      refine attributed_replace hs hrow.mem rfl ?_
      exact {
        creator := rfl
        updater := rfl
        selections := by
          rw [hleaves]
          exact ⟨added, hadded, fun x hx => ⟨congrArg some (hfresh x hx).1.symm, (hfresh x hx).2⟩⟩
        signature := fun _ => ⟨hok _ _ _ _ _ rfl, hkeeper⟩ }
  | deselected hrow hkeeper hmem =>
      refine attributed_replace hs hrow.mem rfl ?_
      exact {
        creator := rfl
        updater := rfl
        selections := ⟨[], (List.append_nil _).symm, List.forall_mem_nil _⟩
        signature := fun hsame => absurd (congrArg Row.selections hsame) (eraseP_ne_self hmem) }

theorem Turn.numbered {ws : List Write} (h : Turn s saved call ws saved') (hs : saved.Numbered) :
    saved'.Numbered := by
  cases h with
  | still | unsaved | listed | delisted | uploaded | published => exact hs
  | opened => exact hs.add rfl
  | edited | selected | deselected => exact hs.replace _

/-! ## Visits -/

theorem addSuppliers_failed {project : Int} {event : String} {refs : List SupplierRef}
    {overwrite : Bool} {principal : String} (hcall : call =
      .addSuppliers project event refs overwrite principal)
    (hfailed : (call.visit s w saved m).1.isOk = false) :
    (call.visit s w saved m).2.session.saved = saved := by
  subst hcall
  have start : (Run.start saved m).At (.fresh saved) (Wrote w m []) := ⟨rfl, rfl, rfl⟩
  rcases hend : (Call.addSuppliers project event refs overwrite principal).visit s w saved m
    with ⟨failure | told, r⟩
  · exact ((addSuppliers_triple (J := WroteOne w m) (lookups w m []) (commits w m []) s
      (fun _ _ _ _ => Wrote.sends rfl m []) principal).of_error start hend).1
  · rw [hend] at hfailed
    cases hfailed

namespace World

variable {x : World ω}

/-- What a visit saves is signed by the principal of its call, however the visit ends. -/
theorem visit_attributed (h : x.saved.Numbered) (call : Call) :
    Attributed call (x.outcome s w call).1.isOk x.saved (x.visit s w call).saved := by
  by_cases hsame : (x.visit s w call).saved = x.saved
  · rw [hsame]
    exact attributed_refl h
  rcases visit_cases s w x call with ⟨turn, -⟩ | ⟨-, hback⟩
  · refine turn.attributed h fun project event refs overwrite principal hcall => ?_
    -- An addition that fails saves nothing.
    by_contra hfailed
    exact hsame (addSuppliers_failed hcall (Bool.eq_false_iff.2 hfailed))
  · exact absurd hback hsame

theorem visits_numbered (h : x.saved.Numbered) (calls : List Call) :
    (x.visits s w calls).saved.Numbered := by
  refine visits_induction (I := fun y => y.saved.Numbered) ?_ h calls
  intro y call hy
  rcases visit_cases s w y call with ⟨turn, -⟩ | ⟨-, hback⟩
  · exact turn.numbered hy
  · rw [hback]
    exact hy

/-- However the calls of a run end, each leaves a store in which all that it changed is signed by
its principal, and nothing else is. -/
theorem visits_attributed (s : Settings) (w : Surroundings ω) (x : World ω)
    (h : x.saved.Numbered) (calls : List Call) (call : Call) :
    let y := x.visits s w calls
    Attributed call (y.outcome s w call).1.isOk y.saved (y.visit s w call).saved :=
  visit_attributed (visits_numbered h calls) call

/-- The second user adds a supplier to the one that the first user selected. The event is theirs
then, and the first selection stays with the first user. -/
theorem visits_attributed_bench :
    let x : World (List Card) := opening [benchProject] [⟨"GB-1", 1⟩, ⟨"GB-2", 2⟩] []
    let calls : List Call := [
      .createEvent 1 { name := some "Pens", kind := some .fca } false "first",
      .addSuppliers 1 "ocds-b5fd17-1" [{ id := "GB-1" }] false "first"]
    let call : Call := .addSuppliers 1 "ocds-b5fd17-1" [{ id := "GB-1" }, { id := "GB-2" }] false
      "second"
    let y := x.visits benchSettings bench calls
    let z := y.visit benchSettings bench call
    x.saved.Numbered ∧
      y.saved.rows.map (fun row => (row.updatedBy, row.selections)) =
        [("first", [⟨"GB-1", "first"⟩])] ∧
      z.saved.rows.map (fun row => (row.updatedBy, row.selections)) =
        [("second", [⟨"GB-1", "first"⟩, ⟨"GB-2", "second"⟩])] ∧
      Attributed call (y.outcome benchSettings bench call).1.isOk y.saved z.saved := by
  intro x calls call y z
  have hx : x.saved.Numbered := List.nodup_nil
  have hy : y.saved.rows.map (fun row => (row.updatedBy, row.selections)) =
      [("first", [⟨"GB-1", "first"⟩])] := by
    decide +kernel
  have hz : z.saved.rows.map (fun row => (row.updatedBy, row.selections)) =
      [("second", [⟨"GB-1", "first"⟩, ⟨"GB-2", "second"⟩])] := by
    decide +kernel
  exact ⟨hx, hy, hz, visits_attributed benchSettings bench x hx calls call⟩

end World
end Desk
end TenderDesk
