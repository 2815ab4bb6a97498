import TenderDesk.Proofs.Desk.Endurance
import TenderDesk.Proofs.Desk.Serving

/-!
# Fulfilment — an update does what it was asked for, and no more

The event that is updated has a record exactly if the platform owns it. An edit that gives a kind to
an event that has a concrete one is refused before anybody is asked (`updateEvent_refused`). Every
other edit is carried out by as little as it takes:

* `Assessed` tells which assessment the event has then, and what was opened for it.
* `Forwarded` tells what is sent to the platform, and which record the event has then.
* `Accomplished` puts these together with the commit and with the row that is saved.

Nothing keeps an update from that but a setting, a project or an answer that it needs
(`update_fulfilled`).
-/

namespace TenderDesk
namespace Desk

open Sourcing

variable {ω : Type} {w : Surroundings ω} {m : ω} {s : Settings} {saved : Store} {before : Row}
  {kind : EventKind} {edit : EventEdit} {principal : String} {K : List Question → Prop} {G : Prop}

/-! ## What is done for an edit -/

/-- The assessment that an event has after an edit, and the question by which it was opened. -/
inductive Assessed (w : Surroundings ω) (m : ω) (saved : Store) (before : Row) (edit : EventEdit)
    (principal : String) : List Question → Option Int → List Question → Prop
  | given {asked : List Question} {id : Int} {report : AssessmentReport}
      (hgiven : edit.assessment = some id)
      (htold : w.Tells m asked (.assessment id principal) (.ok report)) :
      Assessed w m saved before edit principal [] (some report.id) asked
  | opened {asked : List Question} {project : Project} {kind : EventKind} {id : Int}
      (hkind : edit.kind = some kind) (howner : kind.owner = .assessment)
      (hnone : edit.assessment = none) (hunlinked : before.assessment = none)
      (hproject : saved.project? before.project = some project)
      (htold : w.Tells m asked
        (.newAssessment project.framework project.lot kind principal) (.ok id)) :
      Assessed w m saved before edit principal
        [.newAssessment project.framework project.lot kind principal] (some id) asked
  | kept {asked : List Question} (hnone : edit.assessment = none)
      (hlinked : ∀ kind, edit.kind = some kind → kind.owner = .assessment →
        before.assessment.isSome) :
      Assessed w m saved before edit principal [] before.assessment asked

/-- What is sent to the platform for an edit, and the id and the reference code of the record that
the event has then. -/
inductive Forwarded (w : Surroundings ω) (m : ω) (before : Row) (edit : EventEdit) :
    List Question → Option String → Option String → List Question → Prop
  | created {asked : List Question} {kind : EventKind} {rfx : Rfx} {receipt : Receipt}
      (hkind : edit.kind = some kind) (howner : kind.owner = .platform)
      (hrfx : IsRecordFor ((newName edit).getD before.name) rfx)
      (hreceived : Received w m asked (creation rfx) receipt) :
      Forwarded w m before edit [.exchange (creation rfx)] receipt.id.get? receipt.reference.get?
        asked
  | retitled {asked : List Question} {name : String} (hrecord : before.record?.isSome)
      (hname : newName edit = some name) :
      Forwarded w m before edit [.exchange (.write ⟨.createUpdate, titleChange before name⟩)]
        before.externalId before.reference asked
  | left {asked : List Question}
      (hkind : ∀ kind, edit.kind = some kind → kind.owner ≠ .platform)
      (hname : before.record?.isSome → newName edit = none) :
      Forwarded w m before edit [] before.externalId before.reference asked

/-- The row with the fields that an edit gives, and with an assessment. -/
def staged (before : Row) (edit : EventEdit) (assessment : Option Int) : Row :=
  { before with
    name := (newName edit).getD before.name
    kind := (edit.kind.map (·.name)).getD before.kind
    assessment
    target := edit.target.or before.target }

theorem staged_kind (assessment : Option Int) (hkind : before.kind = kind.name) :
    (staged before edit assessment).kind = (edit.kind.getD kind).name := by
  show (edit.kind.map (·.name)).getD before.kind = (edit.kind.getD kind).name
  cases edit.kind with
  | none => exact hkind
  | some k => rfl

/-- The commit of an update, which is asked for only if there is something to save. -/
def committing (edit : EventEdit) : List Question :=
  if isEdit edit then [.commit] else []

/-- An edit was carried out: all that was asked for that may change something is what the edit
takes, and the row that was saved differs from the one before in what the edit says. -/
inductive Accomplished (w : Surroundings ω) (m : ω) (saved : Store) (before : Row)
    (edit : EventEdit) (principal : String) (r : Run ω) : Prop
  | intro {opening sending : List Question} {assessment : Option Int}
      {externalId reference : Option String}
      (hassessed : Assessed w m saved before edit principal opening assessment r.asked)
      (hsent : Forwarded w m before edit sending externalId reference r.asked)
      (hasked : alterations r.asked = opening ++ sending ++ committing edit)
      (hsaved : r.session.saved =
        if isEdit edit then
          saved.replace
            { staged before edit assessment with externalId, reference, updatedBy := principal }
        else saved)

/-- What an update takes for granted of the settings, the table and the edit. -/
structure Provided (s : Settings) (saved : Store) (project : Int) (edit : EventEdit) : Prop where
  creates : Reaches s "createRfx"
  exports : Reaches s "exportRfx"
  template : Configured s
  project : (saved.project? project).isSome
  target : edit.target.all Schema.Codec.fitsWord = true

theorem assessed_lasting {opening : List Question} {assessment : Option Int} :
    Lasting (Assessed w m saved before edit principal opening assessment) := by
  intro asked q h
  cases h with
  | given hgiven htold => exact .given hgiven (tells_lasting asked q htold)
  | opened hkind howner hnone hunlinked hproject htold =>
      exact .opened hkind howner hnone hunlinked hproject (tells_lasting asked q htold)
  | kept hnone hlinked => exact .kept hnone hlinked

theorem forwarded_lasting {sending : List Question} {externalId reference : Option String} :
    Lasting (Forwarded w m before edit sending externalId reference) := by
  intro asked q h
  cases h with
  | created hkind howner hrfx hreceived =>
      obtain ⟨reply, htold, hreceipt⟩ := hreceived
      exact .created hkind howner hrfx ⟨reply, tells_lasting asked q htold, hreceipt⟩
  | retitled hrecord hname => exact .retitled hrecord hname
  | left hkind hname => exact .left hkind hname

/-- An assessment that was told of fits into the store if the answer was of use. -/
theorem Assessed.fits {opening asked : List Question} {assessment : Option Int}
    (h : Assessed w m saved before edit principal opening assessment asked)
    (hbefore : before.fits = true) (hserved : Served s saved w m asked) :
    assessment.all Schema.Codec.fitsWord = true := by
  cases h with
  | given hgiven htold =>
      obtain ⟨told, status, hok, hfits, -⟩ := hserved _ _ htold
      cases hok
      exact hfits
  | opened hkind howner hnone hunlinked hproject htold =>
      obtain ⟨told, hok, hfits⟩ := hserved _ _ htold
      cases hok
      exact hfits
  | kept => exact (Bool.and_eq_true_iff.1 hbefore).1

/-- The store has room for the row that is staged last, whatever its record is and whoever signed
it. -/
theorem fits_of_assessed {opening asked : List Question} {assessment : Option Int} {row : Row}
    {project : Int} (hmem : before ∈ saved.rows) (hfits : saved.fits = true)
    (h : Assessed w m saved before edit principal opening assessment asked)
    (hprovided : Provided s saved project edit) (hserved : Served s saved w m asked)
    (hassessment : row.assessment = assessment)
    (htarget : row.target = edit.target.or before.target) :
    (saved.replace row).fits = true := by
  have hbefore : before.fits = true := Store.fits_iff.1 hfits before hmem
  refine Store.fits_replace hfits ?_
  unfold Row.fits
  rw [hassessment, htarget, h.fits hbefore hserved, Bool.true_and]
  cases hgiven : edit.target with
  | none => exact (Bool.and_eq_true_iff.1 hbefore).2
  | some target =>
      have hword := hprovided.target
      rw [hgiven] at hword
      exact hword

/-! ## Staging -/

/-- Where the kind of an event is not settled yet, any concrete kind can be given. -/
theorem withKind_of_open (hkind : before.kind = kind.name) (hopen : edit.kind = none ∨ kind = .tbd)
    (hconcrete : edit.kind ≠ some .tbd) :
    withKind (renamed before edit) edit.kind =
      .ok { renamed before edit with kind := (edit.kind.map (·.name)).getD before.kind } := by
  unfold withKind
  cases hgiven : edit.kind with
  | none => rfl
  | some k =>
      have htbd : kind = .tbd := by
        rcases hopen with hnone | htbd
        · rw [hgiven] at hnone
          cases hnone
        · exact htbd
      have hne : k ≠ .tbd := fun heq => hconcrete (hgiven.trans (congrArg some heq))
      have hstate : EventKind.stateOf (some (renamed before edit).kind) = EventKind.tbd.name := by
        show EventKind.stateOf (some before.kind) = _
        rw [hkind, htbd]
        exact stateOf_name .tbd
      have hassign : EventKind.assign (renamed before edit).publicId
          (EventKind.stateOf (some (renamed before edit).kind)) k = .ok k :=
        EventKind.assign_eq_ok_iff.2 ⟨hne, hstate, rfl⟩
      dsimp only
      rw [hassign]
      rfl

/-- A concrete kind is settled. -/
theorem withKind_of_settled (hkind : before.kind = kind.name) (hconcrete : kind ≠ .tbd)
    (hgiven : edit.kind.isSome) :
    ∃ failure, withKind (renamed before edit) edit.kind = .error failure ∧
      failure.category = .conflict := by
  obtain ⟨k, hk⟩ := Option.isSome_iff_exists.1 hgiven
  have hstate : EventKind.stateOf (some (renamed before edit).kind) ≠ EventKind.tbd.name := by
    show EventKind.stateOf (some before.kind) ≠ _
    rw [hkind, stateOf_name]
    exact fun heq => hconcrete (EventKind.name_injective heq)
  unfold withKind EventKind.assign
  rw [hk]
  dsimp only
  by_cases htbd : k = .tbd
  · rw [if_pos htbd]
    exact ⟨_, rfl, rfl⟩
  · rw [if_neg htbd, if_neg hstate]
    exact ⟨_, rfl, rfl⟩

/-- The new name is staged before the kind is looked at, and nothing else is. -/
theorem stageEdits_of_refused {failure : Failure} {r : Run ω}
    (h : withKind (renamed before edit) edit.kind = .error failure) :
    stageEdits before edit principal w r =
      (.error failure, (stage (renamed before edit) w r).2) := by
  unfold stageEdits
  rw [h]
  rfl

theorem needsAssessment_iff :
    needsAssessment before edit = true ↔
      (∃ kind, edit.kind = some kind ∧ kind.owner = .assessment) ∧ edit.assessment = none ∧
        before.assessment = none := by
  unfold needsAssessment
  simp only [Bool.and_eq_true, Option.isNone_iff_eq_none, Option.any_eq_true, beq_iff_eq, and_assoc]

/-- The assessment of an edit that opens none. -/
def Given (w : Surroundings ω) (m : ω) (before : Row) (edit : EventEdit) (principal : String)
    (assessment : Option Int) (asked : List Question) : Prop :=
  match edit.assessment with
  | some id => ∃ report, w.Tells m asked (.assessment id principal) (.ok report) ∧
      assessment = some report.id
  | none => assessment = before.assessment

theorem given_lasting {assessment : Option Int} :
    Lasting (Given w m before edit principal assessment) := by
  intro asked q h
  unfold Given at h ⊢
  split at h
  · obtain ⟨report, htold, hsome⟩ := h
    exact ⟨report, tells_lasting asked q htold, hsome⟩
  · exact h

theorem Given.assessed {assessment : Option Int} {asked : List Question}
    (h : Given w m before edit principal assessment asked)
    (hneeds : needsAssessment before edit = false) :
    Assessed w m saved before edit principal [] assessment asked := by
  unfold Given at h
  split at h
  · rename_i id hgiven
    obtain ⟨report, htold, rfl⟩ := h
    exact .given hgiven htold
  · rename_i hnone
    rw [h]
    refine .kept hnone fun kind hkind howner => Option.isSome_iff_ne_none.2 fun hunlinked => ?_
    have htrue := needsAssessment_iff.2 ⟨⟨kind, hkind, howner⟩, hnone, hunlinked⟩
    rw [hneeds] at htrue
    cases htrue

theorem assessmentAfter_serves {σ : Session} (before row : Row)
    (hsame : row.assessment = before.assessment) :
    Triple w (Run.At σ (Altering w m [] fun _ => True)) (assessmentAfter row edit principal)
      (fun assessment => Run.At σ (Altering w m [] (Given w m before edit principal assessment)))
      (Thwarted s saved w m G) := by
  unfold assessmentAfter Given
  cases edit.assessment with
  | none => exact Triple.pure fun r h => ⟨h.1, h.2.1, h.2.2.1, hsame⟩
  | some id =>
      refine Triple.map ((checkAssessment_serves lasting_true id principal).mono_post ?_)
      rintro told r ⟨hsession, hmemory, haltered, -, report, htold, rfl⟩
      exact ⟨hsession, hmemory, haltered, report, htold, rfl⟩

theorem stageEdits_serves (hkind : before.kind = kind.name)
    (hopen : edit.kind = none ∨ kind = .tbd) (hconcrete : edit.kind ≠ some .tbd)
    (hproject : G → (saved.project? before.project).isSome) :
    Triple w (Run.At (.fresh saved) (Altering w m [] fun _ => True))
      (stageEdits before edit principal)
      (fun row r => ∃ opening assessment, row = staged before edit assessment ∧
        r.At ⟨saved, saved.replace row, none⟩
          (Altering w m opening (Assessed w m saved before edit principal opening assessment)))
      (Thwarted s saved w m G) := by
  unfold stageEdits
  -- The row is staged with its name, with its kind and with an assessment, one after the other.
  let named : Row := renamed before edit
  let typed : Row := { named with kind := (edit.kind.map (·.name)).getD before.kind }
  apply Triple.bind (stage_triple named)
  intro _
  rw [withKind_of_open hkind hopen hconcrete, Action.ofExcept_ok, pure_bind]
  apply Triple.bind (restage_triple (a := named) (b := typed) rfl)
  intro _
  apply Triple.bind (assessmentAfter_serves before typed rfl)
  intro assessment
  let linked : Row := staged before edit assessment
  apply Triple.bind (restage_triple (a := typed) (b := linked) rfl)
  intro _
  have hneeds : needsAssessment (renamed before edit) edit = needsAssessment before edit := rfl
  rw [hneeds]
  cases hneeded : needsAssessment before edit with
  | false =>
      rw [if_neg Bool.false_ne_true]
      refine Triple.pure ?_
      rintro r ⟨hsession, hmemory, haltered, hgiven⟩
      exact ⟨[], assessment, rfl, hsession, hmemory, haltered, hgiven.assessed hneeded⟩
  | true =>
      rw [if_pos rfl]
      refine Triple.bind (projectOf_serves linked rfl hproject) fun p => ?_
      apply Triple.of_fact
      intro hp
      obtain ⟨⟨k, hk, howner⟩, hnone, hunlinked⟩ := needsAssessment_iff.1 hneeded
      have hname : EventKind.ofName linked.kind = .ok k := by
        rw [ofName_eq_ok_iff.2 (staged_kind assessment hkind), hk]
        rfl
      refine Triple.bind (R := fun k' r => k' = k ∧ r.At ⟨saved, saved.replace linked, none⟩
        (Altering w m [] (Given w m before edit principal assessment))) ?_ fun k' => ?_
      · refine Triple.ofExcept (fun k' hk' r h => ⟨?_, h⟩) fun failure hfailure r _ => ?_
        · exact Except.ok.inj (hk'.symm.trans hname)
        · cases hfailure.symm.trans hname
      apply Triple.of_fact
      rintro rfl
      apply Triple.bind (openAssessment_serves given_lasting p k' principal)
      intro id
      apply Triple.bind (restage_triple (a := linked) (b := staged before edit (some id)) rfl)
      intro _
      refine Triple.pure ?_
      rintro r ⟨hsession, hmemory, haltered, -, htold⟩
      exact ⟨_, some id, rfl, hsession, hmemory, haltered,
        .opened hk howner hnone hunlinked hp htold⟩

/-! ## The platform -/

section

variable {opening : List Question} {assessment : Option Int} {E : Failure → Run ω → Prop}

/-- The platform was brought up to date for an edit that was staged: `row'` is the row with the
record that the event has then. -/
def Aligned (w : Surroundings ω) (m : ω) (saved : Store) (before : Row) (edit : EventEdit)
    (opening : List Question) (assessment : Option Int) (K : List Question → Prop) (row' : Row)
    (r : Run ω) : Prop :=
  ∃ sending externalId reference,
    row' = { staged before edit assessment with externalId, reference } ∧
      r.At ⟨saved, saved.replace row', none⟩ (Altering w m (opening ++ sending) fun asked =>
        K asked ∧ Forwarded w m before edit sending externalId reference asked)

theorem leave_aligns (hkind : ∀ k, edit.kind = some k → k.owner ≠ .platform)
    (hname : before.record?.isSome → newName edit = none) :
    let row := staged before edit assessment
    Triple w (Run.At ⟨saved, saved.replace row, none⟩ (Altering w m opening K)) (pure row)
      (Aligned w m saved before edit opening assessment K) E := by
  intro row
  refine Triple.pure ?_
  rintro r ⟨hsession, hmemory, haltered, hknown⟩
  refine ⟨[], before.externalId, before.reference, rfl, hsession, hmemory, ?_, hknown, ?_⟩
  · rw [haltered, List.append_nil]
  · exact .left hkind hname

theorem retitle_aligns (hK : Lasting K) (haddress : G → Reaches s "createRfx") {name : String}
    (hrecord : before.record?.isSome) (hname : newName edit = some name) :
    let row := staged before edit assessment
    Triple w (Run.At ⟨saved, saved.replace row, none⟩ (Altering w m opening K))
      (do let _ ← writeRecord s.platform .createUpdate (titleChange before name)
          pure row)
      (Aligned w m saved before edit opening assessment K) (Thwarted s saved w m G) := by
  intro row
  apply Triple.bind (writeRecord_serves hK haddress .createUpdate (titleChange before name))
  intro receipt
  refine Triple.pure ?_
  rintro r ⟨hsession, hmemory, haltered, hknown, -⟩
  exact ⟨_, before.externalId, before.reference, rfl, hsession, hmemory, haltered, hknown,
    .retitled hrecord hname⟩

theorem create_aligns (hK : Lasting K)
    (hprovided : G → Provided s saved before.project edit)
    (hfits : ∀ asked, K asked → G → Served s saved w m asked →
      (saved.replace (staged before edit assessment)).fits = true)
    (hkind : edit.kind = some kind) (howner : kind.owner = .platform) :
    let row := staged before edit assessment
    Triple w (Run.At ⟨saved, saved.replace row, none⟩ (Altering w m opening K))
      (do let row ← createRecord s row (projectOf row) principal
          stage row
          pure row)
      (Aligned w m saved before edit opening assessment K) (Thwarted s saved w m G) := by
  intro row
  have hproject : Triple w (Run.At ⟨saved, saved.replace row, none⟩ (Altering w m opening K))
      (projectOf row) (fun _ => Run.At ⟨saved, saved.replace row, none⟩ (Altering w m opening K))
      (Thwarted s saved w m G) :=
    (projectOf_serves row rfl fun h => (hprovided h).project).mono_post fun _ _ h => h.2
  refine Triple.bind (createRecord_serves (σ := ⟨saved, saved.replace row, none⟩) hK rfl
    (fun h => (hprovided h).creates) (fun h => (hprovided h).template) hfits rfl row hproject
    principal) fun row' => ?_
  refine Triple.of_exists fun rfx => Triple.of_exists fun receipt => Triple.of_fact ?_
  rintro ⟨hrfx, rfl⟩
  apply Triple.bind (restage_triple (a := row) (b := withReceipt row receipt) rfl)
  intro _
  refine Triple.pure ?_
  rintro r ⟨hsession, hmemory, haltered, hknown, hreceived⟩
  exact ⟨[.exchange (creation rfx)], receipt.id.get?, receipt.reference.get?, rfl, hsession,
    hmemory, haltered, hknown, .created hkind howner hrfx hreceived⟩

theorem updateRecord_serves (hK : Lasting K) (hkind : before.kind = kind.name)
    (hrecord : before.record?.isSome ↔ kind.owner = .platform)
    (hopen : edit.kind = none ∨ kind = .tbd)
    (hprovided : G → Provided s saved before.project edit)
    (hfits : ∀ asked, K asked → G → Served s saved w m asked →
      (saved.replace (staged before edit assessment)).fits = true) :
    let row := staged before edit assessment
    Triple w (Run.At ⟨saved, saved.replace row, none⟩ (Altering w m opening K))
      (updateRecord s before row edit principal)
      (Aligned w m saved before edit opening assessment K) (Thwarted s saved w m G) := by
  intro row
  have hname : EventKind.ofName row.kind = .ok (edit.kind.getD kind) :=
    ofName_eq_ok_iff.2 (staged_kind assessment hkind)
  have hsame : row.record? = before.record? := rfl
  unfold updateRecord
  rw [hname, Action.ofExcept_ok, pure_bind, hsame]
  cases hbefore : before.record? with
  | none =>
      have hnone : ¬before.record?.isSome = true := by
        rw [hbefore]
        exact Bool.false_ne_true
      dsimp only
      split
      · rename_i howner
        -- An event without a record is not the platform's, so its kind is given now.
        cases hgiven : edit.kind with
        | none =>
            rw [hgiven] at howner
            exact absurd (hrecord.2 howner) hnone
        | some k =>
            rw [hgiven] at howner
            exact create_aligns hK hprovided hfits hgiven howner
      · rename_i howner
        refine leave_aligns (fun k hk => ?_) fun hsome => absurd hsome hnone
        rw [hk] at howner
        exact howner
  | some record =>
      have hsome : before.record?.isSome := by
        rw [hbefore]
        rfl
      -- An event with a record is the platform's, so it has its kind already.
      have hungiven : edit.kind = none := by
        refine hopen.resolve_right fun htbd => ?_
        have howner := hrecord.1 hsome
        rw [htbd] at howner
        cases howner
      dsimp only
      cases hnamed : newName edit with
      | none =>
          refine leave_aligns (fun k hk => ?_) fun _ => hnamed
          rw [hungiven] at hk
          cases hk
      | some name => exact retitle_aligns hK (fun h => (hprovided h).creates) hsome hnamed

end

/-! ## The commit -/

theorem saveEdits_serves (hK : Lasting K) {row : Row} {altered : List Question}
    (hfits : ∀ asked, K asked → G → Served s saved w m asked →
      (saved.replace { row with updatedBy := principal }).fits = true) :
    Triple w (Run.At ⟨saved, saved.replace row, none⟩ (Altering w m altered K))
      (saveEdits row edit principal)
      (fun last r => last.kind = row.kind ∧
        r.At (savedSession saved row edit principal)
          (Altering w m (altered ++ committing edit) K))
      (Thwarted s saved w m G) := by
  unfold saveEdits savedSession signed committing
  split
  · let last : Row := { row with updatedBy := principal }
    apply Triple.bind (restage_triple (a := row) (b := last) rfl)
    intro _
    apply Triple.bind (save_serves (σ := ⟨saved, saved.replace last, none⟩) hK hfits)
    intro _
    exact Triple.pure fun r h => ⟨rfl, h⟩
  · refine Triple.pure fun r h => ⟨rfl, h.1, h.2.1, ?_, h.2.2.2⟩
    rw [h.2.2.1, List.append_nil]

/-! ## Updates -/

variable {project : Int} {event : String}

/-- A concrete kind is settled: an edit that gives a kind is refused, and nobody is asked. -/
theorem updateEvent_refused (h : Placed s saved project event before)
    (hkind : before.kind = kind.name) (hconcrete : kind ≠ .tbd) (hgiven : edit.kind.isSome)
    (principal : String) :
    let end_ := (Call.updateEvent project event edit principal).visit s w saved m
    (∃ failure, end_.1 = .error failure ∧
        ((w.wait s.attempts m).answered = true → failure.category = .conflict)) ∧
      (∀ q ∈ end_.2.asked, q.IsLookup) ∧ end_.2.session.saved = saved := by
  intro end_
  have hnumber : (eventNumber s.naming event).isOk = true := by
    rw [id_of_names h.names]
    rfl
  have hsearch := findEvent_course (w := w) (r := .start saved m) rfl s project event
  rw [if_pos hnumber] at hsearch
  have hlookups := w.wait_isLookup s.attempts m
  have hend : end_ = updateEvent s project event edit principal w (.start saved m) := rfl
  unfold updateEvent at hend
  rw [Action.bind_apply, hsearch] at hend
  cases hanswered : (w.wait s.attempts m).answered with
  | false =>
      have hmissed : saved.event s.naming project event false = .error .storeUnavailable := by
        unfold Store.event Store.lookUp
        rw [id_of_names h.names]
        rfl
      have hmemory : (Run.start saved m).memory = m := rfl
      rw [hmemory, hanswered, hmissed] at hend
      rw [hend]
      exact ⟨⟨_, rfl, fun hok => by cases hok⟩, hlookups, rfl⟩
  | true =>
      have hfound : saved.event s.naming project event true = .ok before :=
        Store.event_eq_ok_iff_names.2 ⟨h.names, rfl, h.reads⟩
      have hmemory : (Run.start saved m).memory = m := rfl
      rw [hmemory, hanswered, hfound] at hend
      obtain ⟨failure, hassign, hcategory⟩ := withKind_of_settled hkind hconcrete hgiven
      dsimp only at hend
      rw [Action.bind_apply, stageEdits_of_refused hassign] at hend
      rw [hend]
      exact ⟨⟨failure, rfl, fun _ => hcategory⟩, hlookups, rfl⟩

theorem updateEvent_serves (h : Placed s saved project event before)
    (hkind : before.kind = kind.name) (hrecord : before.record?.isSome ↔ kind.owner = .platform)
    (hconcrete : edit.kind ≠ some .tbd) (hopen : edit.kind = none ∨ kind = .tbd)
    (principal : String) :
    Triple w (Run.At (.fresh saved) (Altering w m [] fun _ => True))
      (updateEvent s project event edit principal)
      (fun _ r => Accomplished w m saved before edit principal r)
      (Thwarted s saved w m (Provided s saved project edit)) := by
  have hproject : before.project = project := (Store.of_row? (row?_of_names h.names)).1
  unfold updateEvent
  refine Triple.bind (findEvent_serves lasting_true h) fun found => ?_
  apply Triple.of_fact
  rintro rfl
  refine Triple.bind (stageEdits_serves hkind hopen hconcrete
    fun hprovided => hproject ▸ hprovided.project) fun row => ?_
  refine Triple.of_exists fun opening => Triple.of_exists fun assessment => Triple.of_fact ?_
  rintro rfl
  -- Neither the platform nor the signature changes what the store has to hold in words.
  have room : ∀ row : Row, row.assessment = assessment → row.target = edit.target.or found.target →
      ∀ asked, Assessed w m saved found edit principal opening assessment asked →
        Provided s saved project edit → Served s saved w m asked →
          (saved.replace row).fits = true := fun row ha ht asked hassessed hprovided hserved =>
    fits_of_assessed h.names.mem h.reads.1 hassessed hprovided hserved ha ht
  refine Triple.bind (Triple.onFailure (updateRecord_serves assessed_lasting hkind hrecord hopen
    (fun hprovided => hproject ▸ hprovided) (room _ rfl rfl)) fun _ _ hfailed => hfailed)
    fun row' => ?_
  refine Triple.of_exists fun sending => Triple.of_exists fun externalId =>
    Triple.of_exists fun reference => Triple.of_fact ?_
  rintro rfl
  have hlasting : Lasting fun asked =>
      Assessed w m saved found edit principal opening assessment asked ∧
        Forwarded w m found edit sending externalId reference asked := fun asked q hknown =>
    ⟨assessed_lasting asked q hknown.1, forwarded_lasting asked q hknown.2⟩
  refine Triple.bind (saveEdits_serves hlasting fun asked hknown =>
    room _ rfl rfl asked hknown.1) fun last => ?_
  apply Triple.of_fact
  intro hlast
  refine Triple.bind (statusOf_serves hlasting (fun hprovided => hprovided.exports) last principal)
    fun shown => ?_
  obtain ⟨status, snapshot⟩ := shown
  -- The kind is known by now, so the summary can be told.
  dsimp only
  rw [summary_of_kind (hlast.trans (staged_kind assessment hkind)) status]
  refine Triple.pure ?_
  rintro r ⟨hsession, hmemory, haltered, hassessed, hsent⟩
  refine .intro hassessed hsent haltered ?_
  rw [hsession]
  unfold savedSession signed
  split <;> rfl

/-! ## An update with a record -/

/-- The bare event becomes a request for information, under a new name. -/
def paperEdit : EventEdit where
  name := some "Paper"
  kind := some .rfi

/-- The record that is created for it, with the supplier on the lot. -/
def paperRecord : Rfx :=
  newRecord benchProject "Paper" "rfq_0" "user_42" none [1001]

theorem paperEdit_asked :
    ((Call.updateEvent 1 "ocds-b5fd17-1" paperEdit "buyer").visit shownSettings
      Scene.surroundings linkedStore lotScene).2.asked =
      [.lookup, .buyerUser "buyer", .buyerCompany "buyer", .lotSuppliers "RM6170" "2", .lookup,
        .exchange (creation paperRecord), .commit, .exchange (.showRecord "rfq_1")] := by
  decide +kernel

theorem paperEdit_served :
    Served shownSettings linkedStore Scene.surroundings lotScene
      [.lookup, .buyerUser "buyer", .buyerCompany "buyer", .lotSuppliers "RM6170" "2", .lookup,
        .exchange (creation paperRecord), .commit, .exchange (.showRecord "rfq_1")] := by
  simp only [served_cons]
  refine ⟨rfl, ?user, ?company, ?lot, rfl, ?created, ?committed, ?shown, served_nil⟩
  case user => exact ⟨"user_42", by decide +kernel, by decide⟩
  case company => exact ⟨none, by decide +kernel⟩
  case lot => exact ⟨["GB-COH-111"], by decide +kernel, List.forall_mem_singleton.2 rfl⟩
  case created => exact ⟨benchReceipt ("rfq_1", "itt_1"), by decide +kernel⟩
  case committed => exact rfl
  case shown =>
    let shown : Snapshot := { head := .set { statusCode := .set 100 } }
    exact ⟨shown, .planned, by decide +kernel, by decide +kernel⟩

/-- An update of an event that has a record exactly if the platform owns it. An edit that gives
another kind to an event of a concrete kind is refused, and nobody is asked. Every other edit that
succeeds is carried out by what it takes and by nothing else, and it succeeds if all is provided and
all answers are of use. -/
theorem update_fulfilled (h : Placed s saved project event before)
    (hkind : before.kind = kind.name) (hrecord : before.record?.isSome ↔ kind.owner = .platform)
    (hconcrete : edit.kind ≠ some .tbd) (w : Surroundings ω) (m : ω) (principal : String) :
    let end_ := (Call.updateEvent project event edit principal).visit s w saved m
    (edit.kind.isSome → kind ≠ .tbd →
      (∃ failure, end_.1 = .error failure ∧
          ((w.wait s.attempts m).answered = true → failure.category = .conflict)) ∧
        (∀ q ∈ end_.2.asked, q.IsLookup) ∧ end_.2.session.saved = saved) ∧
    (edit.kind = none ∨ kind = .tbd →
      (∀ told, end_.1 = .ok told → Accomplished w m saved before edit principal end_.2) ∧
        (Provided s saved project edit → Served s saved w m end_.2.asked →
          ∃ told, end_.1 = .ok told)) := by
  intro end_
  refine ⟨fun hgiven hne => updateEvent_refused h hkind hne hgiven principal, fun hopen => ?_⟩
  have start : (Run.start saved m).At (.fresh saved) (Altering w m [] fun _ => True) :=
    ⟨rfl, rfl, rfl, trivial⟩
  have serves := updateEvent_serves (w := w) (m := m) h hkind hrecord hconcrete hopen principal
  refine ⟨fun told htold => serves.of_ok start (Prod.ext htold rfl), fun hprovided hserved => ?_⟩
  cases hresult : end_.1 with
  | ok told => exact ⟨told, rfl⟩
  | error failure =>
      have hthwarted := serves.of_error start (Prod.ext hresult rfl)
      exact absurd hserved (hthwarted hprovided)

/-- The record is created with the new name, and nothing else is sent before the commit. -/
theorem update_fulfilled_paper :
    let before : Row := { draft benchSettings benchProject "Pens" .tbd false "buyer" with id := 1 }
    let end_ := (Call.updateEvent 1 "ocds-b5fd17-1" paperEdit "buyer").visit shownSettings
      Scene.surroundings linkedStore lotScene
    Placed shownSettings linkedStore 1 "ocds-b5fd17-1" before ∧
      Provided shownSettings linkedStore 1 paperEdit ∧
      Served shownSettings linkedStore Scene.surroundings lotScene end_.2.asked ∧
      (∃ told, end_.1 = .ok told) ∧
      Accomplished Scene.surroundings lotScene linkedStore before paperEdit "buyer" end_.2 ∧
      alterations end_.2.asked = [.exchange (creation paperRecord), .commit] := by
  intro before end_
  have hplaced : Placed shownSettings linkedStore 1 "ocds-b5fd17-1" before :=
    ⟨⟨1, by decide +kernel, rfl⟩, by decide +kernel, by decide +kernel⟩
  have hprovided : Provided shownSettings linkedStore 1 paperEdit := {
    creates := ⟨"http://remote.test/create", by decide +kernel⟩
    exports := ⟨"http://remote.test/export", by decide +kernel⟩
    template := ⟨"rfq_0", by decide +kernel⟩
    project := rfl
    target := rfl }
  have hserved : Served shownSettings linkedStore Scene.surroundings lotScene end_.2.asked :=
    paperEdit_asked.symm ▸ paperEdit_served
  have halterations : alterations end_.2.asked = [.exchange (creation paperRecord), .commit] :=
    (congrArg alterations paperEdit_asked).trans (by decide +kernel)
  have hkind : before.kind = EventKind.tbd.name := rfl
  have hrecord : before.record?.isSome ↔ EventKind.tbd.owner = .platform := by decide
  have hconcrete : paperEdit.kind ≠ some .tbd := by decide
  have hfulfilled := (update_fulfilled hplaced hkind hrecord hconcrete Scene.surroundings lotScene
    "buyer").2 (.inr rfl)
  have hok : ∃ told, end_.1 = .ok told := hfulfilled.2 hprovided hserved
  have haccomplished : Accomplished Scene.surroundings lotScene linkedStore before paperEdit "buyer"
      end_.2 :=
    hok.elim hfulfilled.1
  exact ⟨hplaced, hprovided, hserved, hok, haccomplished, halterations⟩

end Desk
end TenderDesk
