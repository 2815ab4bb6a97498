import TenderDesk.Proofs.Desk.History
import TenderDesk.Proofs.Store.Soundness

/-!
# Soundness — rows make sense in every world that is reached

Each way in which a turn writes a row is looked at once: what was opened for a new event makes a
sound row, and so does what an edit makes of one. The rest follows turn by turn.
-/

namespace TenderDesk
namespace Desk

open Sourcing

variable {s : Settings} {saved saved' : Store} {call : Call} {ws : List Write}

/-! ## Keepers -/

/-- The owner of the events whose suppliers a keeper has. -/
def Keeper.owner : Keeper → Owner
  | .table => .assessment
  | .platform => .platform

theorem owner_of_keeper {row : Row} {k : Keeper} (h : keeper row = .ok k) :
    ∃ kind : EventKind, row.kind = kind.name ∧ kind.owner = k.owner := by
  unfold keeper at h
  split at h
  · rename_i kind hkind
    refine ⟨kind, ofName_eq_ok_iff.1 hkind, ?_⟩
    -- An event of nobody has no keeper, so two of the owners are left.
    cases howner : kind.owner with
    | nobody =>
        rw [howner] at h
        cases h
    | assessment =>
        rw [howner] at h
        cases h
        rfl
    | platform =>
        rw [howner] at h
        cases h
        rfl
  · cases h

/-! ## Selections -/

theorem withSuppliers_nodup {row : Row} (h : row.organisations.Nodup)
    (organisations : List String) (overwrite : Bool) (principal : String) :
    (withSuppliers row organisations overwrite principal).organisations.Nodup := by
  unfold withSuppliers
  cases overwrite
  · exact Row.select_nodup h organisations principal
  · exact Row.select_nodup (r := { row with selections := [] }) List.nodup_nil organisations
      principal

/-! ## New events -/

theorem Equipped.sound {row row' : Row} {kind : EventKind} {principal : String}
    (h : Equipped row kind principal ws row') (hkind : row.kind = kind.name)
    (hexternal : row.externalId = none) (hselections : row.selections = []) : row'.Sound := by
  have unselected : ∀ P : Prop, row.selections ≠ [] → P := fun _ hne => absurd hselections hne
  have nodup : row.organisations.Nodup := by
    unfold Row.organisations
    rw [hselections]
    exact List.nodup_nil
  have same : ∀ k : EventKind, row.kind = k.name → k = kind := by
    intro k hk
    exact EventKind.eq_of_name hk hkind
  cases h with
  | assessed howner id organisations =>
      -- Its assessment makes the row sound, and the selections come on top.
      have linked : Row.Sound { row with assessment := some id } := {
        known := ⟨kind, hkind⟩
        assessed := fun _ _ _ => ⟨rfl, hexternal⟩
        unowned := fun _ => ⟨hexternal, hselections⟩
        selected := unselected _
        distinct := nodup }
      have hnodup := withSuppliers_nodup linked.distinct organisations true principal
      rw [withSuppliers_eq]
      exact linked.reselect hkind howner hnodup principal
  | recorded howner rfx receipt hrfx =>
      exact {
        known := ⟨kind, hkind⟩
        assessed := by
          intro k hk hassessment
          rw [same k hk, howner] at hassessment
          cases hassessment
        unowned := by
          intro htbd
          rw [← same .tbd htbd] at howner
          cases howner
        selected := unselected _
        distinct := nodup }
  | unowned howner assessment hnone =>
      exact {
        known := ⟨kind, hkind⟩
        assessed := by
          intro k hk hassessment
          rw [same k hk, howner] at hassessment
          cases hassessment
        unowned := fun _ => ⟨hexternal, hselections⟩
        selected := unselected _
        distinct := nodup }

/-! ## Edits -/

theorem stateOf_name (kind : EventKind) : EventKind.stateOf (some kind.name) = kind.name := by
  cases kind <;> decide

namespace Revised

variable {before row row' : Row} {edit : EventEdit}

/-- An edit leaves the kind alone, or gives a first one. -/
theorem kind_cases (h : Revised before edit row) (hb : before.Sound) :
    row.kind = before.kind ∨ before.kind = EventKind.tbd.name ∧
      ∃ kind, edit.kind = some kind ∧ kind ≠ .tbd ∧ row.kind = kind.name := by
  rcases h.kind with ⟨-, hsame⟩ | ⟨kind, hedit, hne, hstate, hkind⟩
  · exact .inl hsame
  · obtain ⟨old, hold⟩ := hb.known
    rw [hold, stateOf_name] at hstate
    exact .inr ⟨hold.trans hstate, kind, hedit, hne, hkind⟩

theorem externalId (h : Revised before edit row) : row.externalId = before.externalId :=
  by rw [h.rest]

theorem selections (h : Revised before edit row) : row.selections = before.selections :=
  by rw [h.rest]

/-- An event with a kind that needs an assessment has one after an edit. -/
theorem assessed (h : Revised before edit row)
    (hneed : before.assessment.isSome ∨
      ∃ kind, edit.kind = some kind ∧ kind.owner = .assessment) : row.assessment.isSome := by
  cases hgiven : edit.assessment with
  | some id => exact h.given (by rw [hgiven]; rfl)
  | none =>
      cases hopen : needsAssessment before edit with
      | true => exact h.opened hopen
      | false =>
          rw [h.kept hgiven hopen]
          rcases hneed with hb | ⟨kind, hkind, howner⟩
          · exact hb
          · unfold needsAssessment at hopen
            rw [hgiven, hkind] at hopen
            simp only [Option.any_some, howner, Option.isNone_none, Bool.and_true] at hopen
            exact Option.isSome_iff_ne_none.2 fun hnone => by simp [hnone] at hopen

theorem sound (h : Revised before edit row) (hb : before.Sound) : row.Sound := by
  rcases h.kind_cases hb with hsame | ⟨htbd, kind, hedit, hne, hkind⟩
  · exact {
      known := by rw [hsame]; exact hb.known
      assessed := by
        intro k hk howner
        have hbefore := hb.assessed k (hsame ▸ hk) howner
        exact ⟨h.assessed (.inl hbefore.1), h.externalId.trans hbefore.2⟩
      unowned := by rw [hsame, h.externalId, h.selections]; exact hb.unowned
      selected := by rw [hsame, h.selections]; exact hb.selected
      distinct := by unfold Row.organisations; rw [h.selections]; exact hb.distinct }
  · -- An event without a kind had no record and no selections, so any kind goes with it.
    have hfree := hb.unowned htbd
    exact {
      known := ⟨kind, hkind⟩
      assessed := by
        intro k hk howner
        have : k = kind := EventKind.eq_of_name hk hkind
        subst this
        exact ⟨h.assessed (.inr ⟨k, hedit, howner⟩), h.externalId.trans hfree.1⟩
      unowned := fun htbd => absurd (EventKind.eq_of_name hkind htbd) hne
      selected := fun hsome => absurd (h.selections.trans hfree.2) hsome
      distinct := by unfold Row.organisations; rw [h.selections]; exact hb.distinct }

theorem becomes (h : Revised before edit row) (hb : before.Sound) : before.Becomes row where
  id := h.id
  kind hne := by
    rcases h.kind_cases hb with hsame | ⟨htbd, -⟩
    · exact hsame
    · exact absurd htbd hne
  record id _ he := h.externalId.trans he

end Revised

namespace Brought

variable {before row row' : Row} {edit : EventEdit}

theorem sound (h : Brought before edit row ws row') (hrow : row.Sound) : row'.Sound := by
  cases h with
  | recorded kind hkind howner hnone rfx receipt hrfx =>
      have hname : row.kind = kind.name := ofName_eq_ok_iff.1 hkind
      have same : ∀ k : EventKind, row.kind = k.name → k = kind := by
        intro k hk
        exact EventKind.eq_of_name hk hname
      exact {
        known := hrow.known
        assessed := by
          intro k hk hassessment
          rw [same k hk, howner] at hassessment
          cases hassessment
        unowned := by
          intro htbd
          rw [← same .tbd htbd] at howner
          cases howner
        selected := hrow.selected
        distinct := hrow.distinct }
  | retitled => exact hrow
  | left => exact hrow

theorem becomes (h : Brought before edit row ws row') : row.Becomes row' := by
  cases h with
  | recorded kind hkind howner hnone rfx receipt hrfx =>
      exact {
        id := rfl
        kind := fun _ => rfl
        record := by
          intro id hne he
          rw [Row.record?_eq_some_iff.2 ⟨he, hne⟩] at hnone
          cases hnone }
  | retitled => exact .refl row
  | left => exact .refl row

end Brought

/-! ## Turns -/

/-- A turn makes a sound store of a sound store, and keeps what events keep. -/
theorem Turn.sound (h : Turn s saved call ws saved') (hs : saved.Sound) :
    saved'.Sound ∧ saved.Evolves saved' := by
  -- Where only selections and signature differ, the row stays sound and what it was.
  have reselected : ∀ {row : Row} {selections : List Selection} {principal : String},
      row ∈ saved.rows → row.Sound → keeper row = .ok .table →
      (selections.map (·.organisation)).Nodup →
      (saved.replace { row with selections, updatedBy := principal }).Sound ∧
        saved.Evolves (saved.replace { row with selections, updatedBy := principal }) := by
    intro row selections principal hmem hrow hkeeper hnodup
    rcases owner_of_keeper hkeeper with ⟨kind, hkind, howner⟩
    refine ⟨hs.replace (hrow.reselect hkind howner hnodup principal), ?_⟩
    exact .replace hs.numbered hmem ⟨rfl, fun _ => rfl, fun _ _ h => h⟩
  cases h with
  | still => exact ⟨hs, .refl saved⟩
  | opened p hproject name hname hrow =>
      -- A draft has no record and no selections yet.
      have hsound := hrow.sound rfl rfl rfl
      exact ⟨hs.add rfl (hsound.congr rfl rfl rfl rfl), .add saved _⟩
  | edited hbefore hrow hrow' hedit =>
      have hb : Row.Sound _ := hs.rows _ hbefore.mem
      have hsound := hrow'.sound (hrow.sound hb)
      have hbecomes := (hrow.becomes hb).trans hrow'.becomes
      refine ⟨hs.replace (hsound.congr rfl rfl rfl rfl), .replace hs.numbered hbefore.mem ?_⟩
      exact ⟨hbecomes.id, hbecomes.kind, hbecomes.record⟩
  | unsaved => exact ⟨hs, .refl saved⟩
  | selected hrow hkeeper =>
      have hsound : Row.Sound _ := hs.rows _ hrow.mem
      rw [withSuppliers_eq]
      exact reselected hrow.mem hsound hkeeper (withSuppliers_nodup hsound.distinct _ _ _)
  | listed => exact ⟨hs, .refl saved⟩
  | deselected hrow hkeeper hmem =>
      have hsound : Row.Sound _ := hs.rows _ hrow.mem
      refine reselected hrow.mem hsound hkeeper ?_
      exact hsound.distinct.sublist (List.Sublist.map _ List.eraseP_sublist)
  | delisted => exact ⟨hs, .refl saved⟩
  | uploaded => exact ⟨hs, .refl saved⟩
  | published => exact ⟨hs, .refl saved⟩

/-! ## Histories -/

namespace World

variable {ω : Type} {w : Surroundings ω} {x : World ω}

theorem visit_sound (h : x.saved.Sound) (call : Call) :
    (x.visit s w call).saved.Sound ∧ x.saved.Evolves (x.visit s w call).saved := by
  rcases visit_cases s w x call with ⟨hturn, -⟩ | ⟨-, hsame⟩
  · exact hturn.sound h
  · rw [hsame]
    exact ⟨h, .refl x.saved⟩

theorem visits_sound (h : x.saved.Sound) (calls : List Call) :
    (x.visits s w calls).saved.Sound ∧ x.saved.Evolves (x.visits s w calls).saved := by
  refine visits_induction (I := fun y => y.saved.Sound ∧ x.saved.Evolves y.saved) ?_
    ⟨h, .refl x.saved⟩ calls
  rintro y call ⟨hy, hxy⟩
  rcases visit_sound (s := s) (w := w) hy call with ⟨hsound, hevolves⟩
  exact ⟨hsound, hxy.trans hevolves⟩

theorem opening_sound (projects : List Project) (links : List Link) (m : ω) :
    (opening projects links m).saved.Sound :=
  .of_rows_eq_nil rfl

/-- However calls and commits end, every event that the desk ever has is sound, and it keeps its
concrete kind and its record from then on. -/
theorem reached_sound (s : Settings) (w : Surroundings ω) (projects : List Project)
    (links : List Link) (m : ω) (calls more : List Call) :
    let x := (opening projects links m).visits s w calls
    x.saved.Sound ∧ x.saved.Evolves (x.visits s w more).saved := by
  intro x
  have hx : x.saved.Sound := (visits_sound (opening_sound projects links m) calls).1
  exact ⟨hx, (visits_sound hx more).2⟩

end World
end Desk
end TenderDesk
