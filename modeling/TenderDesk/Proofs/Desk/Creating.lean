import TenderDesk.Proofs.Desk.Soundness

/-!
# Creating — all of an event or nothing of it

The row of a new event comes last, so a call that fails leaves the table as it was. What is opened
outside for the event cannot be taken back with the table, so everything is looked at before.

* `Unopened` says that nothing was opened so far, `Vetted` that nothing that was told so far stands
  against the event.
* Each step that may fail for such a reason comes before each that opens something: a failed call
  has opened nothing, or everything was in order (`createEvent_vets`).
* `created_or_unopened` draws the conclusion for whole calls.
-/

namespace TenderDesk
namespace Desk

open Sourcing

variable {ω : Type} {w : Surroundings ω} {m : ω} {saved : Store} {settings : Settings}

/-! ## What was told -/

/-- Questions that may open something outside of the table. -/
def Question.Opens : Question → Prop
  | .exchange _ | .newAssessment _ _ _ _ => True
  | _ => False

/-- An answer does not stand against a new event. -/
def Question.Admits (saved : Store) : (q : Question) → q.Answer → Prop
  | .buyerUser _, .ok user => user.getD "" ≠ ""
  | .lotSuppliers _ _, .ok organisations => Linked saved organisations
  | _, _ => True

/-- One of the questions that were put one after the other is `q`, and `answer` was told to it. -/
def Surroundings.Tells (w : Surroundings ω) (m : ω) (qs : List Question) (q : Question)
    (answer : q.Answer) : Prop :=
  ∃ before after, qs = before ++ q :: after ∧ (w q (w.after m before)).1 = answer

theorem Surroundings.tells_concat {qs : List Question} {p q : Question} {answer : q.Answer} :
    w.Tells m (qs ++ [p]) q answer ↔
      w.Tells m qs q answer ∨ p = q ∧ (w q (w.after m qs)).1 = answer := by
  constructor
  · rintro ⟨before, after, hqs, hanswer⟩
    rcases concat_eq_append_cons hqs with ⟨rfl, hp⟩ | ⟨rest, rfl⟩
    · exact .inr ⟨hp, hanswer⟩
    · exact .inl ⟨before, rest, rfl, hanswer⟩
  · rintro (⟨before, after, rfl, hanswer⟩ | ⟨rfl, hanswer⟩)
    · exact ⟨before, after ++ [p], by simp, hanswer⟩
    · exact ⟨qs, [], rfl, hanswer⟩

/-- Nothing was opened since `m`. -/
def Unopened (w : Surroundings ω) (m : ω) : Trail ω :=
  fun m' asked => m' = w.after m asked ∧ ∀ q ∈ asked, ¬q.Opens

/-- Nothing that was told since `m` stands against the event. -/
def Vetted (w : Surroundings ω) (m : ω) (saved : Store) : Trail ω :=
  fun m' asked => m' = w.after m asked ∧
    ∀ q answer, w.Tells m asked q answer → q.Admits saved answer

/-- Nothing stands against the event, and nothing was opened for it yet. -/
def Prepared (w : Surroundings ω) (m : ω) (saved : Store) : Trail ω :=
  fun m' asked => Unopened w m m' asked ∧ Vetted w m saved m' asked

theorem unopened_keeps : w.Keeps (fun q => ¬q.Opens) (Unopened w m) := by
  rintro q hq _ asked ⟨rfl, h⟩
  refine ⟨by simp, ?_⟩
  intro q' hq'
  rcases List.mem_append.1 hq' with hq' | hq'
  · exact h q' hq'
  · rw [List.mem_singleton.1 hq']
    exact hq

theorem Vetted.concat {m' : ω} {asked : List Question} {q : Question}
    (h : Vetted w m saved m' asked) (hq : q.Admits saved (w q m').1) :
    Vetted w m saved (w q m').2 (asked ++ [q]) := by
  rcases h with ⟨rfl, h⟩
  refine ⟨by simp, ?_⟩
  intro q' answer htold
  rcases Surroundings.tells_concat.1 htold with htold | ⟨rfl, rfl⟩
  · exact h q' answer htold
  · exact hq

/-- Questions that are not about the user and the suppliers are answered without consequence. -/
theorem vetted_keeps : w.Keeps (fun q => ∀ answer, q.Admits saved answer) (Vetted w m saved) :=
  fun _ hq _ _ h => h.concat (hq _)

theorem prepared_keeps :
    w.Keeps (fun q => ¬q.Opens ∧ ∀ answer, q.Admits saved answer) (Prepared w m saved) :=
  fun q hq m' asked h => ⟨unopened_keeps q hq.1 m' asked h.1, vetted_keeps q hq.2 m' asked h.2⟩

/-! ## Steps -/

/-- What is known after a question whose answer may stand against the event. -/
def Asked (w : Surroundings ω) (m : ω) (saved : Store) (q : Question) (answer : q.Answer) :
    Trail ω :=
  fun m' asked => Unopened w m m' asked ∧ (q.Admits saved answer → Vetted w m saved m' asked)

theorem ask_vets {q : Question} (hq : ¬q.Opens) {E : Failure → Run ω → Prop} :
    Triple w (Run.At (.fresh saved) (Prepared w m saved)) (Action.ask q)
      (fun answer => Run.At (.fresh saved) (Asked w m saved q answer)) E :=
  Triple.ask fun _ h => ⟨h.1, unopened_keeps q hq _ _ h.2.1, fun hadmits => h.2.2.concat hadmits⟩

theorem asked_keeps {q : Question} {answer : q.Answer} :
    w.Keeps Question.IsLookup (Asked w m saved q answer) := by
  intro p hp m' asked h
  have hshut : ¬p.Opens := by
    cases p <;> first | exact absurd hp id | exact id
  have hfree : ∀ answer, p.Admits saved answer := by
    cases p <;> first | exact absurd hp id | exact fun _ => trivial
  exact ⟨unopened_keeps p hshut m' asked h.1, fun hadmits => vetted_keeps p hfree m' asked
    (h.2 hadmits)⟩

theorem findUser_vets (principal : String) :
    Triple w (Run.At (.fresh saved) (Prepared w m saved)) (findUser principal)
      (fun _ => Run.At (.fresh saved) (Prepared w m saved))
      (fun _ => Run.At (.fresh saved) (Unopened w m)) := by
  unfold findUser
  apply Triple.bind (ask_vets id)
  intro answer
  refine Triple.bind (R := fun user r => answer = .ok user ∧
    r.At (.fresh saved) (Asked w m saved (.buyerUser principal) answer)) ?_ fun user => ?_
  · exact Triple.ofExcept_knowing.mono_fail fun _ r h => ⟨h.1, h.2.1⟩
  apply Triple.of_fact
  rintro rfl
  cases user with
  | none => exact Triple.fail fun r h => ⟨h.1, h.2.1⟩
  | some user =>
      dsimp only
      split
      · exact Triple.fail fun r h => ⟨h.1, h.2.1⟩
      · rename_i hne
        have hadmits : Question.Admits saved (.buyerUser principal) (.ok (some user)) := by
          intro huser
          exact hne (String.isEmpty_iff.2 huser)
        exact Triple.pure fun r h => ⟨h.1, h.2.1, h.2.2 hadmits⟩

theorem lotLinks_vets (project : Project) :
    Triple w (Run.At (.fresh saved) (Prepared w m saved)) (lotLinks settings project)
      (fun _ => Run.At (.fresh saved) (Prepared w m saved))
      (fun _ => Run.At (.fresh saved) (Unopened w m)) := by
  unfold lotLinks
  apply Triple.bind (ask_vets id)
  intro answer
  refine Triple.bind (R := fun organisations r => answer = .ok organisations ∧
    r.At (.fresh saved) (Asked w m saved (.lotSuppliers project.framework project.lot) answer)) ?_
    fun organisations => ?_
  · exact Triple.ofExcept_knowing.mono_fail fun _ r h => ⟨h.1, h.2.1⟩
  apply Triple.of_fact
  rintro rfl
  -- The links are all there, or the search for them fails.
  refine (links_triple asked_keeps settings organisations).mono (fun _ h => h) ?_ ?_
  · rintro found r ⟨⟨hlinked, -⟩, h⟩
    exact ⟨h.1, h.2.1, h.2.2 hlinked⟩
  · intro failure r h
    exact ⟨h.at_fresh.1, h.2.1⟩

/-- A parameter for the creation of records is there. -/
def Configured (settings : Settings) : Prop :=
  ∃ template, creationParameter settings.platform "templateId" = .ok template

theorem createRecord_vets (row : Row) (project : Project) (principal : String) :
    Triple w (Run.At (.fresh saved) (Prepared w m saved))
      (createRecord settings row (pure project) principal)
      (fun _ r => Configured settings ∧ r.At (.fresh saved) (Vetted w m saved))
      (fun _ r => Unopened w m r.memory r.asked ∨
        Configured settings ∧ Vetted w m saved r.memory r.asked) := by
  unfold createRecord
  apply Triple.bind ((findUser_vets principal).mono_fail fun _ r h => .inl h.2)
  intro user
  refine Triple.bind (Triple.ask_keeping prepared_keeps ⟨id, fun _ => trivial⟩) fun answer => ?_
  apply Triple.bind (Triple.ofExcept_keeping.mono_fail fun _ r h => .inl h.2.1)
  intro company
  refine Triple.bind (R := fun _ => Run.At (.fresh saved) (Prepared w m saved))
    (Triple.pure fun r h => h) fun project => ?_
  apply Triple.bind ((lotLinks_vets project).mono_fail fun _ r h => .inl h.2)
  intro links
  apply Triple.bind (Triple.ofExcept_knowing.mono_fail fun _ r h => .inl h.2.1)
  intro template
  apply Triple.of_fact
  intro htemplate
  -- From here on the record may be there, but nothing is left that could stand against it.
  have sent : Sends w (.write ⟨.createFromTemplate, newRecord project row.name template user company
      (links.map (·.company))⟩) (Vetted w m saved) fun _ => Vetted w m saved :=
    Sends.of_keeps vetted_keeps fun _ => trivial
  refine Triple.bind (R := fun _ => Run.At (.fresh saved) (Vetted w m saved))
    ((writeRecord_triple sent).mono (fun r h => ⟨h.1, h.2.2⟩) (fun _ _ h => h) ?_)
    fun receipt => ?_
  · exact fun _ r h => .inr ⟨⟨template, htemplate⟩, h.2⟩
  · exact Triple.pure fun r h => ⟨⟨template, htemplate⟩, h⟩

/-- Nothing stands against an event of a kind. -/
def Passed (settings : Settings) (w : Surroundings ω) (m : ω) (saved : Store) (kind : EventKind)
    (r : Run ω) : Prop :=
  (kind.owner = .platform → Configured settings) ∧ Vetted w m saved r.memory r.asked

theorem openEvent_vets (project : Project) (row : Row) (kind : EventKind) (asked : Option Int)
    (principal : String) :
    Triple w (Run.At (.fresh saved) (Prepared w m saved))
      (openEvent settings project row kind asked principal)
      (fun _ r => Passed settings w m saved kind r)
      (fun _ r => Unopened w m r.memory r.asked ∨ Passed settings w m saved kind r) := by
  have hv : w.Keeps (fun q => ∀ answer, q.Admits saved answer) (Vetted w m saved) := vetted_keeps
  -- The row comes last, and adding it asks for a commit only.
  have added : ∀ draft, (kind.owner = .platform → Configured settings) →
      Triple w (Run.At (.fresh saved) (Vetted w m saved)) (insert draft)
        (fun _ r => Passed settings w m saved kind r)
        (fun _ r => Unopened w m r.memory r.asked ∨ Passed settings w m saved kind r) := by
    intro draft hkind
    have hc : w.Keeps (· = .commit) (Vetted w m saved) :=
      hv.mono fun q hq => by rw [hq]; exact fun _ => trivial
    refine (insert_triple hc draft).mono (fun _ h => h) ?_ ?_
    · exact fun _ r h => ⟨hkind, h.2.2⟩
    · exact fun _ r h => .inr ⟨hkind, h.1.2⟩
  have prepared : ∀ r : Run ω, r.At (.fresh saved) (Prepared w m saved) →
      r.At (.fresh saved) (Vetted w m saved) := fun r h => ⟨h.1, h.2.2⟩
  unfold openEvent
  cases howner : kind.owner with
  | assessment =>
      have hkind : kind.owner = .platform → Configured settings := by
        rw [howner]
        exact fun h => by cases h
      dsimp only
      apply Triple.bind ((lotLinks_vets project).mono_fail fun _ r h => .inl h.2)
      intro links
      refine Triple.bind ((assessmentFor_triple hv (fun _ _ => trivial) (fun _ => trivial)
        asked).mono prepared (fun _ _ h => h) ?_) fun assessment => ?_
      · exact fun _ r h => .inr ⟨hkind, h.2⟩
      · exact added _ hkind
  | platform =>
      dsimp only
      refine Triple.bind ((createRecord_vets row project principal).mono_fail ?_) fun row' => ?_
      · exact fun _ r h => h.imp id fun h => ⟨fun _ => h.1, h.2⟩
      · apply Triple.of_fact
        exact fun hconfigured => added _ fun _ => hconfigured
  | nobody =>
      have hkind : kind.owner = .platform → Configured settings := by
        rw [howner]
        exact fun h => by cases h
      cases asked with
      | some id =>
          refine Triple.bind ((checkAssessment_triple hv fun _ => trivial).mono prepared
            (fun _ _ h => h) ?_) fun assessment => ?_
          · exact fun _ r h => .inr ⟨hkind, h.2⟩
          · exact added _ hkind
      | none => exact (added _ hkind).mono prepared (fun _ _ h => h) fun _ _ h => h

/-! ## Calls -/

/-- The project is there, the event has a title, and nothing stands against it. -/
structure Cleared (settings : Settings) (w : Surroundings ω) (m : ω) (saved : Store) (project : Int)
    (request : NewEvent) (r : Run ω) : Prop where
  known : (saved.project? project).isSome
  titled : ∀ p, saved.project? project = some p →
    ∃ title, titleFor settings.platform p request.name (request.kind.getD .tbd) = .ok title
  passed : Passed settings w m saved (request.kind.getD .tbd) r

theorem createEvent_vets (settings : Settings) (w : Surroundings ω) (m : ω) (saved : Store)
    (project : Int) (request : NewEvent) (downSelected : Bool) (principal : String) :
    Triple w (Run.At (.fresh saved) (Prepared w m saved))
      (createEvent settings project request downSelected principal)
      (fun _ r => Cleared settings w m saved project request r)
      (fun _ r => Unopened w m r.memory r.asked ∨
        Cleared settings w m saved project request r) := by
  have hl : w.Keeps Question.IsLookup (Prepared w m saved) := by
    refine prepared_keeps.mono fun q hq => ?_
    cases q <;> first | exact absurd hq id | exact ⟨id, fun _ => trivial⟩
  unfold createEvent
  apply Triple.bind ((findProject_triple hl settings project).mono_fail
    fun _ r h => .inl h.at_fresh.2.1)
  intro p
  apply Triple.of_fact
  intro (hproject : saved.project? project = some p)
  dsimp only
  apply Triple.bind (Triple.ofExcept_knowing.mono_fail fun _ r h => .inl h.2.1)
  intro title
  apply Triple.of_fact
  intro htitle
  have cleared : ∀ r : Run ω, Passed settings w m saved (request.kind.getD .tbd) r →
      Cleared settings w m saved project request r := by
    intro r hpassed
    refine ⟨by rw [hproject]; rfl, ?_, hpassed⟩
    intro p' hp'
    have hsame : p = p' := Option.some.inj (hproject.symm.trans hp')
    rw [← hsame]
    exact ⟨title, htitle⟩
  apply Triple.bind ((openEvent_vets p _ _ request.assessment principal).mono_fail
    fun _ r h => h.imp id (cleared r))
  intro row
  exact Triple.ofExcept (fun _ _ r h => cleared r h) (fun _ _ r h => .inr (cleared r h))

/-- Something that stands against a new event, known before or told to one of the questions. -/
inductive Obstacle (settings : Settings) (w : Surroundings ω) (m : ω) (saved : Store)
    (project : Int) (request : NewEvent) (asked : List Question) : Prop
  | unknown (h : saved.project? project = none) :
      Obstacle settings w m saved project request asked
  | untitled {p : Project} {failure : Failure} (hp : saved.project? project = some p)
      (h : titleFor settings.platform p request.name (request.kind.getD .tbd) = .error failure) :
      Obstacle settings w m saved project request asked
  | unlinked {framework lot organisation : String} {organisations : List String}
      (htold : w.Tells m asked (.lotSuppliers framework lot) (.ok organisations))
      (hmem : organisation ∈ organisations) (h : saved.linkOf? organisation = none) :
      Obstacle settings w m saved project request asked
  | unnamed {principal : String} {answer : Option String}
      (htold : w.Tells m asked (.buyerUser principal) (.ok answer)) (h : answer.getD "" = "") :
      Obstacle settings w m saved project request asked
  | unset {failure : Failure} (howner : (request.kind.getD .tbd).owner = .platform)
      (h : creationParameter settings.platform "templateId" = .error failure) :
      Obstacle settings w m saved project request asked

theorem Cleared.no_obstacle {project : Int} {request : NewEvent} {r : Run ω}
    (h : Cleared settings w m saved project request r) :
    ¬Obstacle settings w m saved project request r.asked := by
  have hadmits := h.passed.2.2
  intro obstacle
  cases obstacle with
  | unknown hnone =>
      have hknown := h.known
      rw [hnone] at hknown
      cases hknown
  | untitled hp herror =>
      rcases h.titled _ hp with ⟨title, htitle⟩
      rw [herror] at htitle
      cases htitle
  | unlinked htold hmem hnone =>
      have hlinked : Linked saved _ := hadmits _ _ htold
      have hsome := hlinked _ hmem
      rw [hnone] at hsome
      cases hsome
  | unnamed htold hnone => exact hadmits _ _ htold hnone
  | unset howner herror =>
      rcases h.passed.1 howner with ⟨template, htemplate⟩
      rw [herror] at htemplate
      cases htemplate

theorem createEvent_adds (settings : Settings) (w : Surroundings ω) (m : ω) (saved : Store)
    (project : Int) (request : NewEvent) (downSelected : Bool) (principal : String) :
    Triple w (Run.At (.fresh saved) (Wrote w m []))
      (createEvent settings project request downSelected principal)
      (fun told r => ∃ row, row.id = saved.nextId ∧ summary row .planning = .ok told ∧
        r.session = .fresh (saved.add row))
      (fun _ r => r.session = .fresh saved) := by
  refine (createEvent_triple (L := Wrote w m) (lookups w m []) (services w m []) (commits w m)
    settings project request downSelected (fun _ _ _ => Wrote.sends rfl m []) principal).mono
      (fun _ h => h) ?_ fun _ _ h => h.1
  rintro told r ⟨ws, row, ⟨hopened, htold⟩, h⟩
  exact ⟨row, hopened.id, htold, h.1⟩

/-- A call that fails changes nothing in the table, and one that succeeds adds one row. Where
something stands against the event, the call fails, and nothing was opened outside for it. -/
theorem created_or_unopened (settings : Settings) (w : Surroundings ω) (saved : Store) (m : ω)
    (project : Int) (request : NewEvent) (downSelected : Bool) (principal : String) :
    let end_ := (Call.createEvent project request downSelected principal).visit settings w saved m
    (∀ failure, end_.1 = .error failure → end_.2.session = .fresh saved) ∧
      (∀ told, end_.1 = .ok told → ∃ row, (∀ r ∈ saved.rows, r.id ≠ row.id) ∧
        summary row .planning = .ok told ∧ end_.2.session = .fresh (saved.add row)) ∧
      (Obstacle settings w m saved project request end_.2.asked →
        end_.1.isOk = false ∧ ∀ q ∈ end_.2.asked, ¬q.Opens) := by
  intro end_
  have wrote : (Run.start saved m).At (.fresh saved) (Wrote w m []) := ⟨rfl, rfl, rfl⟩
  have prepared : (Run.start saved m).At (.fresh saved) (Prepared w m saved) := by
    refine ⟨rfl, ⟨rfl, fun _ h => absurd h List.not_mem_nil⟩, rfl, ?_⟩
    rintro q answer ⟨before, after, hnil, -⟩
    cases before <;> cases hnil
  have adds := createEvent_adds settings w m saved project request downSelected principal
  have vets := createEvent_vets settings w m saved project request downSelected principal
  refine ⟨?_, ?_, ?_⟩
  · intro failure hfailure
    exact adds.of_error wrote (Prod.ext hfailure rfl)
  · intro told htold
    rcases adds.of_ok wrote (Prod.ext htold rfl) with ⟨row, hid, hsummary, hsession⟩
    refine ⟨row, ?_, hsummary, hsession⟩
    intro r hr
    rw [hid]
    exact Nat.ne_of_lt (Store.id_lt_nextId hr)
  · intro obstacle
    cases hresult : end_.1 with
    | ok told => exact absurd obstacle (vets.of_ok prepared (Prod.ext hresult rfl)).no_obstacle
    | error failure =>
        refine ⟨rfl, ?_⟩
        rcases vets.of_error prepared (Prod.ext hresult rfl) with hunopened | hcleared
        · exact hunopened.2
        · exact absurd obstacle hcleared.no_obstacle

end Desk
end TenderDesk
