import TenderDesk.Proofs.Desk.Dispatch
import TenderDesk.Proofs.Desk.Outage
import TenderDesk.Proofs.Desk.Suppliers

/-!
# Serving — an action goes on as long as it is told what it needs

* `Question.Serves` says which answers are of use to those who change an event, and `Served` says it
  of all answers of a run.
* `Altering` follows a run by what was asked for in it that may change something (`alterations`).
* The parts of an update are gone through once. Each tells what it asked for where it succeeds, and
  fails only where something was not provided or an answer was of no use (`Thwarted`).
-/

namespace TenderDesk
namespace Desk

open Sourcing

variable {ω α : Type} {w : Surroundings ω} {m : ω} {s : Settings} {saved : Store} {σ : Session}

/-! ## Alterations -/

instance : DecidablePred Question.Alters
  | .exchange request => inferInstanceAs (Decidable (request.isWriting = true))
  | .newAssessment _ _ _ _ | .commit => isTrue trivial
  | .buyerUser _ | .buyerCompany _ | .lotSuppliers _ _ | .assessment _ _ | .criteria _ _ | .lookup
  | .clock | .pause _ => isFalse id

/-- The questions that may change something. -/
def alterations (qs : List Question) : List Question :=
  qs.filter fun q => q.Alters

theorem alterations_append (qs qs' : List Question) :
    alterations (qs ++ qs') = alterations qs ++ alterations qs' :=
  List.filter_append ..

theorem alterations_of_not_alters {q : Question} (h : ¬q.Alters) : alterations [q] = [] := by
  simp [alterations, h]

theorem alterations_of_alters {q : Question} (h : q.Alters) : alterations [q] = [q] := by
  simp [alterations, h]

/-! ## Answers -/

/-- An answer is of use to those who change an event. -/
def Question.Serves (s : Settings) (saved : Store) : (q : Question) → q.Answer → Prop
  | .exchange (.showRecord id), reply => ∃ snapshot status,
      Snapshot.ofReply id reply = .ok snapshot ∧
        translate s.statuses (Status.codeText snapshot.statusCode?) = .ok status
  | .exchange _, reply => ∃ receipt, reply.receipt? = some receipt
  | .buyerUser _, answer => ∃ user, answer = .ok (some user) ∧ user ≠ ""
  | .buyerCompany _, answer => ∃ company, answer = .ok company
  | .lotSuppliers _ _, answer => ∃ organisations, answer = .ok organisations ∧
      Linked saved organisations
  | .newAssessment _ _ _ _, answer => ∃ id, answer = .ok id ∧ Schema.Codec.fitsWord id = true
  | .assessment _ _, answer => ∃ report status, answer = .ok report ∧
      Schema.Codec.fitsWord report.id = true ∧ statusOfWord report.status = .ok status
  | .lookup, answered => answered = true
  | .commit, refusal => refusal = none
  | _, _ => True

/-- All answers that were told since `m` are of use. -/
def Served (s : Settings) (saved : Store) (w : Surroundings ω) (m : ω) (asked : List Question) :
    Prop :=
  ∀ q answer, w.Tells m asked q answer → q.Serves s saved answer

theorem served_nil : Served s saved w m [] := by
  rintro q answer ⟨before, after, hasked, -⟩
  simp at hasked

theorem served_cons {q : Question} {asked : List Question} :
    Served s saved w m (q :: asked) ↔
      q.Serves s saved (w q m).1 ∧ Served s saved w (w q m).2 asked := by
  constructor
  · intro h
    refine ⟨h q _ ⟨[], asked, rfl, rfl⟩, ?_⟩
    rintro p answer ⟨before, after, rfl, htold⟩
    exact h p answer ⟨q :: before, after, rfl, htold⟩
  · rintro ⟨hq, hrest⟩ p answer ⟨before, after, hasked, htold⟩
    cases before with
    | nil =>
        obtain ⟨rfl, -⟩ := List.cons.inj hasked
        exact htold ▸ hq
    | cons b before =>
        obtain ⟨rfl, rfl⟩ := List.cons.inj hasked
        exact hrest p answer ⟨before, after, rfl, htold⟩

/-- Unless `G` does not hold, some answer was of no use. -/
def Thwarted (s : Settings) (saved : Store) (w : Surroundings ω) (m : ω) (G : Prop)
    (_ : Failure) (r : Run ω) : Prop :=
  G → ¬Served s saved w m r.asked

/-- The questions since `m` are those that were asked, `altered` are those of them that may change
something, and something is known of the questions besides. -/
def Altering (w : Surroundings ω) (m : ω) (altered : List Question) (K : List Question → Prop) :
    Trail ω :=
  fun m' asked => m' = w.after m asked ∧ alterations asked = altered ∧ K asked

variable {G : Prop} {altered : List Question} {K : List Question → Prop}

theorem thwarted_of_told {r : Run ω} {q : Question} {answer : q.Answer}
    (htold : w.Tells m r.asked q answer) (h : ¬q.Serves s saved answer) (failure : Failure) :
    Thwarted s saved w m G failure r :=
  fun _ hserved => h (hserved q answer htold)

theorem altering_keeps (hK : Lasting K) :
    w.Keeps (fun q => ¬q.Alters) (Altering w m altered K) := by
  rintro q hq _ asked ⟨rfl, haltered, hknown⟩
  refine ⟨by simp, ?_, hK asked q hknown⟩
  rw [alterations_append, alterations_of_not_alters hq, List.append_nil, haltered]

theorem altering_lookups (hK : Lasting K) :
    w.Keeps Question.IsLookup (Altering w m altered K) :=
  (altering_keeps hK).mono fun _ => Question.not_alters_of_isLookup

/-! ## Questions -/

/-- A question that is asked, and the answer to it. -/
theorem ask_serves (hK : Lasting K) (q : Question) {E : Failure → Run ω → Prop} :
    Triple w (Run.At σ (Altering w m altered K)) (Action.ask q)
      (fun answer => Run.At σ (Altering w m (altered ++ alterations [q]) fun asked =>
        K asked ∧ w.Tells m asked q answer)) E := by
  refine Triple.ask ?_
  rintro r ⟨hsession, hmemory, haltered, hknown⟩
  refine ⟨hsession, by simp [hmemory], ?_, hK r.asked q hknown, ?_⟩
  · rw [alterations_append, haltered]
  · exact Surroundings.tells_concat.2 (.inr ⟨rfl, by rw [hmemory]⟩)

/-- A question whose answer is read in a way that every answer of use can be read. -/
theorem read_serves (hK : Lasting K) {q : Question} (read : q.Answer → Except Failure α)
    (hread : ∀ answer, q.Serves s saved answer → ∃ a, read answer = .ok a) :
    Triple w (Run.At σ (Altering w m altered K))
      (Action.ask q >>= fun answer => Action.ofExcept (read answer))
      (fun a => Run.At σ (Altering w m (altered ++ alterations [q]) fun asked =>
        K asked ∧ ∃ answer, w.Tells m asked q answer ∧ read answer = .ok a))
      (Thwarted s saved w m G) := by
  apply Triple.bind (ask_serves hK q)
  intro answer
  refine Triple.ofExcept ?_ ?_
  · rintro a ha r ⟨hsession, hmemory, haltered, hknown, htold⟩
    exact ⟨hsession, hmemory, haltered, hknown, answer, htold, ha⟩
  · -- An answer that cannot be read is an answer of no use.
    rintro failure hfailure r ⟨-, -, -, -, htold⟩
    refine thwarted_of_told htold (fun hserves => ?_) failure
    rcases hread answer hserves with ⟨a, ha⟩
    rw [hfailure] at ha
    cases ha

/-- A question that changes nothing, whatever is made of the answer. -/
theorem inquire_serves (hK : Lasting K) {q : Question} (read : q.Answer → Except Failure α)
    (hq : ¬q.Alters)
    (hread : ∀ answer, q.Serves s saved answer → ∃ a, read answer = .ok a) :
    Triple w (Run.At σ (Altering w m altered K))
      (Action.ask q >>= fun answer => Action.ofExcept (read answer))
      (fun _ => Run.At σ (Altering w m altered K)) (Thwarted s saved w m G) := by
  refine (read_serves hK read hread).mono_post ?_
  rintro a r ⟨hsession, hmemory, haltered, hknown, -⟩
  refine ⟨hsession, hmemory, ?_, hknown⟩
  rw [haltered, alterations_of_not_alters hq, List.append_nil]

/-! ## The table -/

theorem wait_asked (w : Surroundings ω) (attempts : Int) (m : ω) :
    ∃ rest, (w.wait attempts m).asked = .lookup :: rest := by
  unfold Surroundings.wait
  cases Patience.calls attempts - 1 with
  | zero => exact ⟨[], rfl⟩
  | succ again =>
      unfold Surroundings.waitFor
      split
      · exact ⟨[], rfl⟩
      · exact ⟨_, rfl⟩

/-- A lookup tells what the session sees, if the session fits into the store. -/
theorem look_serves (hK : Lasting K) (hopen : σ.blocked = none) {words : List Int}
    (hreads : ∀ asked, K asked → G → Served s saved w m asked → σ.working.Reads words)
    (read : Store → α) :
    Triple w (Run.At σ (Altering w m altered K)) (look s words read)
      (fun a r => a = read σ.working ∧ r.At σ (Altering w m altered K))
      (Thwarted s saved w m G) := by
  intro r hr
  have hlook := look_triple (altering_lookups hK) s words read r hr
  rw [look_apply (by rw [hr.1, hopen])] at hlook ⊢
  cases hend : r.lookedUp words read (w.wait s.attempts r.memory) with
  | mk told r' =>
  rw [hend] at hlook
  cases told with
  | ok a => exact hlook
  | error failure =>
      intro hG hserved
      -- The store answered the first try, so it is the session that does not fit into it.
      obtain ⟨rest, hrest⟩ := wait_asked w s.attempts r.memory
      have hasked : r'.asked = r.asked ++ .lookup :: rest := by
        have hr' : r' = (r.lookedUp words read (w.wait s.attempts r.memory)).2 := by rw [hend]
        rw [hr', ← hrest]
        unfold Run.lookedUp
        split <;> rfl
      have hanswer : (w .lookup r.memory).1 = true := by
        have htold : w.Tells m r'.asked .lookup (w .lookup (w.after m r.asked)).1 :=
          ⟨r.asked, rest, hasked, rfl⟩
        rw [hr.2.1]
        exact hserved _ _ htold
      have hknown : K r'.asked := hlook.2.2.2
      obtain ⟨hfits, hwords⟩ := hreads _ hknown hG hserved
      rw [Surroundings.wait_of_answer hanswer] at hend
      unfold Run.lookedUp Session.lookedUp at hend
      rw [if_pos rfl, hr.1, if_pos hfits, if_pos hwords] at hend
      cases hend

theorem findEvent_serves (hK : Lasting K) {project : Int} {event : String} {row : Row}
    (h : Placed s saved project event row) :
    Triple w (Run.At (.fresh saved) (Altering w m altered K)) (findEvent s project event)
      (fun found r => found = row ∧ r.At (.fresh saved) (Altering w m altered K))
      (Thwarted s saved w m G) := by
  unfold findEvent
  rw [id_of_names h.names, Action.ofExcept_ok, pure_bind]
  apply Triple.bind (look_serves hK rfl (fun _ _ _ _ => h.reads) _)
  intro found
  apply Triple.of_fact
  rintro rfl
  rw [show (Session.fresh saved).working.row? project row.id = some row from row?_of_names h.names]
  exact Triple.pure fun r h => ⟨rfl, h⟩

theorem links_serves (hK : Lasting K) (hopen : σ.blocked = none) {organisations : List String}
    (hfits : ∀ asked, K asked → G → Served s saved w m asked → σ.working.fits = true)
    (hlinked : ∀ asked, K asked → Served s saved w m asked → Linked σ.working organisations) :
    Triple w (Run.At σ (Altering w m altered K)) (links s organisations)
      (fun _ => Run.At σ (Altering w m altered K)) (Thwarted s saved w m G) := by
  unfold links
  extract_lets distinct rest
  -- With no organisations the store is not asked; the links are those of the table either way.
  have done : ∀ found : List Link, found = distinct.filterMap σ.working.linkOf? →
      Triple w (Run.At σ (Altering w m altered K)) (rest found)
        (fun _ => Run.At σ (Altering w m altered K)) (Thwarted s saved w m G) := by
    rintro found rfl
    dsimp only [rest]
    split
    · exact Triple.pure fun r h => h
    · rename_i hmissing
      refine Triple.fail fun r h _ hserved => hmissing ?_
      exact missing_eq_nil_iff.2 (linked_eraseDups.2 (hlinked _ h.2.2.2 hserved))
  split
  · rename_i hempty
    refine done [] ?_
    rw [List.isEmpty_iff.1 hempty]
    rfl
  · refine Triple.bind (look_serves hK hopen (fun asked h hG hserved => ?_) _) fun found => ?_
    · exact ⟨hfits asked h hG hserved, rfl⟩
    exact Triple.of_fact fun hfound => done found hfound

/-- A commit is done, unless the store refuses it or cannot hold the edits. -/
theorem commit_serves (hK : Lasting K)
    (hfits : ∀ asked, K asked → G → Served s saved w m asked → σ.working.fits = true) :
    Triple w (Run.At σ (Altering w m altered K)) commit
      (fun v r => (v = .done ∨ ∀ failure, Thwarted s saved w m G failure r) ∧
        r.At σ (Altering w m (altered ++ [.commit]) K))
      (Thwarted s saved w m G) := by
  unfold commit
  apply Triple.bind (ask_serves hK .commit)
  intro answer
  refine Triple.bind (R := fun edited r => edited = σ.working ∧
    r.At σ (Altering w m (altered ++ [.commit]) fun asked =>
      K asked ∧ w.Tells m asked .commit answer)) ?_ fun edited => ?_
  · exact Triple.store fun r h => ⟨congrArg Session.working h.1, h⟩
  apply Triple.of_fact
  rintro rfl
  refine Triple.pure ?_
  rintro r ⟨hsession, hmemory, haltered, hknown, htold⟩
  refine ⟨?_, hsession, hmemory, haltered, hknown⟩
  by_cases hdone : verdict σ.working answer = .done
  · exact .inl hdone
  · refine .inr fun failure hG hserved => hdone ?_
    obtain rfl : answer = none := hserved _ _ htold
    exact if_pos (hfits _ hknown hG hserved)

theorem save_serves (hK : Lasting K)
    (hfits : ∀ asked, K asked → G → Served s saved w m asked → σ.working.fits = true) :
    Triple w (Run.At σ (Altering w m altered K)) save
      (fun _ => Run.At (.fresh σ.working) (Altering w m (altered ++ [.commit]) K))
      (Thwarted s saved w m G) := by
  unfold save
  apply Triple.bind (commit_serves hK hfits)
  intro v
  cases v with
  | done => exact Triple.edit fun r h => ⟨congrArg Session.commit h.2.1, h.2.2⟩
  | refused failure =>
      refine Triple.edit_fail fun r h => ?_
      exact h.1.resolve_left nofun failure
  | unsent failure =>
      refine Triple.edit_fail fun r h => ?_
      exact h.1.resolve_left nofun failure

theorem projectOf_serves (row : Row)
    (hsame : σ.working.project? row.project = saved.project? row.project)
    (hproject : G → (saved.project? row.project).isSome) :
    Triple w (Run.At σ (Altering w m altered K)) (projectOf row)
      (fun p r => saved.project? row.project = some p ∧ r.At σ (Altering w m altered K))
      (Thwarted s saved w m G) := by
  unfold projectOf
  refine Triple.bind (R := fun working r => working = σ.working ∧
    r.At σ (Altering w m altered K)) ?_ fun working => ?_
  · exact Triple.store fun r h => ⟨congrArg Session.working h.1, h⟩
  apply Triple.of_fact
  rintro rfl
  refine Triple.ofOption (fun p hp r h => ⟨hsame.symm.trans hp, h⟩) fun hnone r _ hG => ?_
  have hsome := hproject hG
  rw [hsame.symm.trans hnone] at hsome
  cases hsome

/-! ## Colleagues -/

theorem findUser_eq (principal : String) :
    (findUser principal : Action ω String) =
      Action.ask (.buyerUser principal) >>= fun answer => Action.ofExcept (userOf answer) := by
  funext w r
  rw [findUser_course, Action.bind_apply, Action.ask_apply]
  exact (ofExcept_apply _ _).symm

theorem findUser_serves (hK : Lasting K) (principal : String) :
    Triple w (Run.At σ (Altering w m altered K)) (findUser principal)
      (fun _ => Run.At σ (Altering w m altered K)) (Thwarted s saved w m G) := by
  rw [findUser_eq]
  refine inquire_serves (q := .buyerUser principal) hK userOf id ?_
  rintro answer ⟨user, rfl, hne⟩
  exact ⟨user, userOf_eq_ok_iff.2 ⟨rfl, hne⟩⟩

theorem lotLinks_serves (hK : Lasting K) (hopen : σ.blocked = none) (project : Project)
    (hfits : ∀ asked, K asked → G → Served s saved w m asked → σ.working.fits = true)
    (hlinks : σ.working.links = saved.links) :
    Triple w (Run.At σ (Altering w m altered K)) (lotLinks s project)
      (fun _ => Run.At σ (Altering w m altered K)) (Thwarted s saved w m G) := by
  let q : Question := .lotSuppliers project.framework project.lot
  have same : ∀ organisations, Linked saved organisations → Linked σ.working organisations := by
    intro organisations h
    unfold Linked Store.linkOf? at h ⊢
    rw [hlinks]
    exact h
  unfold lotLinks
  rw [← bind_assoc]
  refine Triple.bind (read_serves (q := q) hK id ?_)
    fun organisations => ?_
  · rintro answer ⟨organisations, rfl, -⟩
    exact ⟨organisations, rfl⟩
  -- What was told of the lot is known, so the suppliers on it are linked if the answer was of use.
  have hlasting : Lasting fun asked => K asked ∧ ∃ answer, w.Tells m asked q answer ∧
      id answer = .ok organisations := by
    rintro asked p ⟨hknown, answer, htold, hanswer⟩
    exact ⟨hK asked p hknown, answer, tells_lasting asked p htold, hanswer⟩
  refine (links_serves hlasting hopen (fun asked h => hfits asked h.1) ?_).mono_post ?_
  · rintro asked ⟨-, answer, htold, hanswer⟩ hserved
    obtain ⟨told, htold', hlinked⟩ := hserved q answer htold
    obtain rfl : organisations = told := Except.ok.inj (hanswer.symm.trans htold')
    exact same _ hlinked
  · rintro found r ⟨hsession, hmemory, haltered, hknown, -⟩
    refine ⟨hsession, hmemory, ?_, hknown⟩
    rw [haltered, alterations_of_not_alters (q := q) id, List.append_nil]

theorem checkAssessment_serves (hK : Lasting K) (id : Int) (principal : String) :
    Triple w (Run.At σ (Altering w m altered K)) (checkAssessment id principal)
      (fun told => Run.At σ (Altering w m altered fun asked => K asked ∧
        ∃ report, w.Tells m asked (.assessment id principal) (.ok report) ∧ told = report.id))
      (Thwarted s saved w m G) := by
  let q : Question := .assessment id principal
  unfold checkAssessment
  rw [← bind_assoc]
  refine Triple.bind (read_serves (q := q) hK (fun answer => answer) ?_) fun report => ?_
  · rintro answer ⟨report, status, rfl, -⟩
    exact ⟨report, rfl⟩
  refine Triple.pure ?_
  rintro r ⟨hsession, hmemory, haltered, hknown, answer, htold, rfl⟩
  refine ⟨hsession, hmemory, ?_, hknown, report, htold, rfl⟩
  rw [haltered, alterations_of_not_alters (q := q) (fun h => h), List.append_nil]

theorem openAssessment_serves (hK : Lasting K) (project : Project) (kind : EventKind)
    (principal : String) :
    let q : Question := .newAssessment project.framework project.lot kind principal
    Triple w (Run.At σ (Altering w m altered K)) (openAssessment project kind principal)
      (fun id => Run.At σ (Altering w m (altered ++ [q]) fun asked =>
        K asked ∧ w.Tells m asked q (.ok id)))
      (Thwarted s saved w m G) := by
  intro q
  refine (read_serves (q := q) hK id ?_).mono_post ?_
  · rintro answer ⟨id, rfl, -⟩
    exact ⟨id, rfl⟩
  · rintro id r ⟨hsession, hmemory, haltered, hknown, answer, htold, rfl⟩
    exact ⟨hsession, hmemory, haltered, hknown, htold⟩

/-! ## Records -/

theorem writeRecord_serves (hK : Lasting K) (haddress : G → Reaches s "createRfx")
    (command : Command) (rfx : Rfx) :
    let request : Request := .write ⟨command, rfx⟩
    Triple w (Run.At σ (Altering w m altered K)) (writeRecord s.platform command rfx)
      (fun receipt => Run.At σ (Altering w m (altered ++ [.exchange request]) fun asked =>
        K asked ∧ Received w m asked request receipt))
      (Thwarted s saved w m G) := by
  intro request r hr
  obtain ⟨hsession, hmemory, haltered, hknown⟩ := hr
  let q : Question := .exchange request
  have hcourse := change_course (w := w) (p := s.platform) (r := r) request
    (Receipt.ofFullAnswer (answerName command) command.name)
  have hlast : alterations (r.asked ++ [q]) = altered ++ [q] := by
    rw [alterations_append, haltered, alterations_of_alters (q := q) rfl]
  have htold : w.Tells m (r.asked ++ [q]) q (w q r.memory).1 :=
    Surroundings.tells_concat.2 (.inr ⟨rfl, by rw [hmemory]⟩)
  unfold writeRecord
  rw [hcourse]
  -- Without an address nothing is sent, and the answer is read only if it is JSON.
  cases hurl : urlOf s.platform request.endpoint with
  | error failure =>
      intro hG
      obtain ⟨url, hok⟩ := haddress hG
      have herror : urlOf s.platform "createRfx" = .error failure := hurl
      rw [hok] at herror
      cases herror
  | ok url =>
      dsimp only
      have sent : ∀ receipt, (w q r.memory).1.receipt? = some receipt →
          (r.asking w q).At σ (Altering w m (altered ++ [q]) fun asked =>
            K asked ∧ Received w m asked request receipt) := fun receipt hreceipt =>
        ⟨hsession, by simp [Run.asking, hmemory], hlast, hK r.asked q hknown, _, htold, hreceipt⟩
      have unsent : (w q r.memory).1.receipt? = none → ∀ failure,
          Thwarted s saved w m G failure (r.asking w q) := by
        intro hnone
        refine thwarted_of_told htold fun hserves => ?_
        obtain ⟨receipt, hreceipt⟩ : ∃ receipt, (w q r.memory).1.receipt? = some receipt := hserves
        rw [hnone] at hreceipt
        cases hreceipt
      have hread : ∀ j receipt, Receipt.ofFullAnswer (answerName command) command.name j =
          .ok receipt ↔ Receipt.ofJson? j = some receipt :=
        fun _ _ => Receipt.ofFullAnswer_eq_ok_iff
      cases hanswer : (w q r.memory).1.told
          (Receipt.ofFullAnswer (answerName command) command.name) request.endpoint with
      | ok receipt => exact sent receipt ((Reply.told_eq_ok_iff hread).1 hanswer)
      | error failure => exact unsent (Reply.receipt?_of_told_error hread hanswer) failure

/-- What a record is created with is looked up first, and asks for nothing that may change
something. -/
theorem createRecord_serves (hK : Lasting K) (hopen : σ.blocked = none)
    (haddress : G → Reaches s "createRfx") (htemplate : G → Configured s)
    (hfits : ∀ asked, K asked → G → Served s saved w m asked → σ.working.fits = true)
    (hlinks : σ.working.links = saved.links) (row : Row) {project : Action ω Project}
    (hproject : Triple w (Run.At σ (Altering w m altered K)) project
      (fun _ => Run.At σ (Altering w m altered K)) (Thwarted s saved w m G))
    (principal : String) :
    Triple w (Run.At σ (Altering w m altered K)) (createRecord s row project principal)
      (fun row' r => ∃ rfx receipt, (IsRecordFor row.name rfx ∧ row' = withReceipt row receipt) ∧
        r.At σ (Altering w m (altered ++ [.exchange (creation rfx)]) fun asked =>
          K asked ∧ Received w m asked (creation rfx) receipt))
      (Thwarted s saved w m G) := by
  unfold createRecord
  apply Triple.bind (findUser_serves hK principal)
  intro user
  rw [← bind_assoc]
  refine Triple.bind (inquire_serves (q := .buyerCompany principal) hK id id ?_)
    fun company => ?_
  · rintro answer ⟨company, rfl⟩
    exact ⟨company, rfl⟩
  apply Triple.bind hproject
  intro project
  apply Triple.bind (lotLinks_serves hK hopen project hfits hlinks)
  intro links
  refine Triple.bind (R := fun _ => Run.At σ (Altering w m altered K)) ?_ fun template => ?_
  · refine Triple.ofExcept (fun _ _ r h => h) fun failure hfailure r h hG => ?_
    obtain ⟨template, hok⟩ := htemplate hG
    rw [hfailure] at hok
    cases hok
  have hrfx : IsRecordFor row.name (newRecord project row.name template user company
      (links.map (·.company))) := ⟨_, _, _, _, _, rfl⟩
  apply Triple.bind (writeRecord_serves hK haddress .createFromTemplate _)
  intro receipt
  exact Triple.pure fun r h => ⟨_, receipt, ⟨hrfx, rfl⟩, h⟩

/-! ## The status -/

theorem statusOf_serves (hK : Lasting K) (haddress : G → Reaches s "exportRfx") (row : Row)
    (principal : String) :
    Triple w (Run.At σ (Altering w m altered K)) (statusOf s row principal)
      (fun _ => Run.At σ (Altering w m altered K)) (Thwarted s saved w m G) := by
  unfold statusOf
  split
  · rename_i record _
    rintro r hr
    let q : Question := .exchange (.showRecord record)
    have hnext := altering_keeps hK q (fun h => Bool.false_ne_true h) _ _ hr.2
    have htold : w.Tells m (r.asked ++ [q]) q (w q r.memory).1 :=
      Surroundings.tells_concat.2 (.inr ⟨rfl, by rw [hr.2.1]⟩)
    have useless : ∀ failure, ¬q.Serves s saved (w q r.memory).1 →
        Thwarted s saved w m G failure (r.asking w q) :=
      fun failure h => thwarted_of_told htold h failure
    rw [Action.bind_apply, fetchRecord_course]
    cases hurl : urlOf s.platform (Request.showRecord record).endpoint with
    | error failure =>
        intro hG
        obtain ⟨url, hok⟩ := haddress hG
        have herror : urlOf s.platform "exportRfx" = .error failure := hurl
        rw [hok] at herror
        cases herror
    | ok url =>
        dsimp only
        cases hshown : Snapshot.ofReply record (w q r.memory).1 with
        | error failure =>
            refine useless failure ?_
            rintro ⟨snapshot, status, hok, -⟩
            rw [hshown] at hok
            cases hok
        | ok snapshot =>
            dsimp only
            rw [ofPlatform_eq, Action.bind_apply, ofExcept_apply]
            cases hstatus : translate s.statuses (Status.codeText snapshot.statusCode?) with
            | ok status => exact ⟨hr.1, hnext⟩
            | error fault =>
                refine useless _ ?_
                rintro ⟨told, status, hok, hknown⟩
                obtain rfl : snapshot = told := Except.ok.inj (hshown.symm.trans hok)
                rw [hstatus] at hknown
                cases hknown
  · split
    · rename_i assessment _
      let q : Question := .assessment assessment principal
      rw [← bind_assoc]
      refine Triple.bind (read_serves (q := q) hK id ?_)
        fun report => ?_
      · rintro answer ⟨report, status, rfl, -⟩
        exact ⟨report, rfl⟩
      rw [ofPlatform_eq]
      refine Triple.bind (R := fun _ => Run.At σ (Altering w m altered K)) ?_
        fun status => Triple.pure fun r h => h
      refine Triple.ofExcept ?_ ?_
      · rintro status - r ⟨hsession, hmemory, haltered, hknown, -⟩
        refine ⟨hsession, hmemory, ?_, hknown⟩
        rw [haltered, alterations_of_not_alters (q := q) id, List.append_nil]
      · rintro failure hfailure r ⟨-, -, -, -, answer, htold, rfl⟩
        refine thwarted_of_told htold ?_ failure
        rintro ⟨told, status, hok, -, hstatus⟩
        obtain rfl : report = told := Except.ok.inj hok
        rw [hstatus] at hfailure
        cases hfailure
    · exact Triple.pure fun r h => h

end Desk
end TenderDesk
