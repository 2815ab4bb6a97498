import TenderDesk.Desk.Events
import TenderDesk.Proofs.Desk.Records
import TenderDesk.Proofs.Desk.Table

/-!
# Course — what a lookup comes to, question by question

A triple tells what holds after an action; here a lookup is followed from question to question. All
that it takes from the surroundings is how long the desk waits for its store.

* `Surroundings.wait` is the wait for the store: whether it answered at last, and what was asked.
* `Store.lookUp` is what a lookup tells after such a wait, and `Store.event` what a search for an
  event tells. An event is found exactly when it is there and the store can be read
  (`Store.event_eq_ok_iff`).
-/

namespace TenderDesk

/-! ## What is told -/

namespace Store

variable {α : Type}

/-- What a store tells to a lookup, where `answered` says whether it answered at all. -/
def lookUp (s : Store) (words : List Int) (read : Store → α) (answered : Bool) :
    Except Failure α :=
  if answered then
    if s.fits && words.all Schema.Codec.fitsWord then .ok (read s) else .error .storeWord
  else .error .storeUnavailable

/-- What a store tells to a search for an event of a project. -/
def event (s : Store) (naming : Naming) (project : Int) (event : String) (answered : Bool) :
    Except Failure Row :=
  match Desk.eventNumber naming event with
  | .error failure => .error failure
  | .ok number =>
      match s.lookUp [project, number] (fun s => s.row? project number) answered with
      | .error failure => .error failure
      | .ok none => .error (.eventMissing event project)
      | .ok (some row) => .ok row

/-- The numbers of a lookup are words of the store, and so are all that the store holds. -/
def Reads (s : Store) (words : List Int) : Prop :=
  s.fits = true ∧ words.all Schema.Codec.fitsWord = true

theorem lookUp_eq_ok_iff {s : Store} {words : List Int} {read : Store → α} {answered : Bool}
    {a : α} :
    s.lookUp words read answered = .ok a ↔ answered = true ∧ s.Reads words ∧ read s = a := by
  unfold lookUp Reads
  rw [← Bool.and_eq_true_iff]
  cases answered with
  | false => simp
  | true => cases s.fits && words.all Schema.Codec.fitsWord <;> simp

/-- An event is found exactly when it is there, and the store answers and can be read. -/
theorem event_eq_ok_iff {s : Store} {naming : Naming} {project : Int} {event : String}
    {answered : Bool} {row : Row} :
    s.event naming project event answered = .ok row ↔
      ∃ number : Nat, Desk.eventNumber naming event = .ok number ∧
        s.row? project number = some row ∧ answered = true ∧ s.Reads [project, number] := by
  unfold Store.event
  cases hnumber : Desk.eventNumber naming event with
  | error failure => simp
  | ok number =>
      simp only [Except.ok.injEq, exists_eq_left']
      cases hfound : s.lookUp [project, ↑number] (fun s => s.row? project number) answered with
      | error failure =>
          -- Had the store been read, something would have been told.
          constructor
          · intro h
            cases h
          · rintro ⟨hrow, hanswered, hreads⟩
            have hok : s.lookUp [project, ↑number] (fun s => s.row? project number) answered =
                .ok (some row) := lookUp_eq_ok_iff.2 ⟨hanswered, hreads, hrow⟩
            rw [hfound] at hok
            cases hok
      | ok found =>
          obtain ⟨hanswered, hreads, rfl⟩ := lookUp_eq_ok_iff.1 hfound
          cases s.row? project number <;> simp [hanswered, hreads]

theorem event_eq_ok_iff_names {s : Store} {naming : Naming} {project : Int} {event : String}
    {answered : Bool} {row : Row} :
    s.event naming project event answered = .ok row ↔
      Desk.Names naming s project event row ∧ answered = true ∧ s.Reads [project, row.id] := by
  rw [event_eq_ok_iff]
  constructor
  · rintro ⟨number, hnumber, hrow, hanswered, hreads⟩
    rw [← (of_row? hrow).2] at hreads
    exact ⟨⟨number, hnumber, hrow⟩, hanswered, hreads⟩
  · rintro ⟨hnames, hanswered, hreads⟩
    exact ⟨row.id, Desk.id_of_names hnames, Desk.row?_of_names hnames, hanswered, hreads⟩

end Store

namespace Session

variable {α : Type}

/-- What a lookup that the store answers tells to a session, and where the session stands then:
edits that do not fit into the store are taken back. -/
def lookedUp (words : List Int) (read : Store → α) (σ : Session) :
    Except Failure α × Session :=
  if σ.working.fits then
    if words.all Schema.Codec.fitsWord then (.ok (read σ.working), σ) else (.error .storeWord, σ)
  else (.error .storeWord, σ.rollback)

theorem lookedUp_fresh {saved : Store} (words : List Int) (read : Store → α) :
    lookedUp words read (.fresh saved) = (saved.lookUp words read true, .fresh saved) := by
  unfold lookedUp Store.lookUp fresh rollback
  cases saved.fits with
  | false => rfl
  | true => cases words.all Schema.Codec.fitsWord <;> rfl

end Session

namespace Desk

variable {ω α : Type} {w : Surroundings ω} {saved : Store} {r : Run ω}

/-! ## Requests -/

/-- The request that a question sends to the platform. -/
def Question.request? : Question → Option Sourcing.Request
  | .exchange request => some request
  | _ => none

/-- The requests that questions send, in their order. -/
def requestsOf (qs : List Question) : List Sourcing.Request :=
  qs.filterMap Question.request?

@[simp] theorem requestsOf_append (qs qs' : List Question) :
    requestsOf (qs ++ qs') = requestsOf qs ++ requestsOf qs' :=
  List.filterMap_append

theorem mem_requestsOf {request : Sourcing.Request} {qs : List Question} :
    request ∈ requestsOf qs ↔ .exchange request ∈ qs := by
  unfold requestsOf
  rw [List.mem_filterMap]
  constructor
  · rintro ⟨q, hq, heq⟩
    cases q with
    | exchange request' =>
        cases heq
        exact hq
    | _ => cases heq
  · intro h
    exact ⟨_, h, rfl⟩

theorem requestsOf_of_isLookup {qs : List Question} (h : ∀ q ∈ qs, q.IsLookup) :
    requestsOf qs = [] := by
  apply List.filterMap_eq_nil_iff.2
  intro q hq
  cases q with
  | exchange request => exact absurd (h _ hq) id
  | _ => rfl

/-! ## Waiting -/

/-- The run after a question. -/
def Run.asking (w : Surroundings ω) (q : Question) (r : Run ω) : Run ω :=
  { r with memory := (w q r.memory).2, asked := r.asked ++ [q] }

structure Wait (ω : Type) where
  /-- The store answered at last. -/
  answered : Bool
  memory : ω
  asked : List Question

/-- The run after a wait. -/
def Run.waiting (wait : Wait ω) (r : Run ω) : Run ω :=
  { r with memory := wait.memory, asked := r.asked ++ wait.asked }

namespace Surroundings

/-- The wait for the store with up to `again` further tries; `made` counts those that are made with
the first. -/
def waitFor (w : Surroundings ω) : (again made : Nat) → ω → Wait ω
  | 0, _, m => ⟨(w .lookup m).1, (w .lookup m).2, [.lookup]⟩
  | again + 1, made, m =>
      if (w .lookup m).1 then ⟨true, (w .lookup m).2, [.lookup]⟩
      else
        let pause := Question.pause (Patience.pauseAfter made)
        let rest := w.waitFor again (made + 1) (w pause (w .lookup m).2).2
        { rest with asked := .lookup :: pause :: rest.asked }

/-- The wait of a desk that has the patience for some attempts. -/
def wait (w : Surroundings ω) (attempts : Int) (m : ω) : Wait ω :=
  w.waitFor (Patience.calls attempts - 1) 1 m

theorem waitFor_isLookup (w : Surroundings ω) (again made : Nat) (m : ω) :
    ∀ q ∈ (w.waitFor again made m).asked, q.IsLookup := by
  induction again generalizing made m with
  | zero =>
      intro q hq
      rw [List.mem_singleton.1 hq]
      trivial
  | succ again ih =>
      intro q hq
      unfold waitFor at hq
      split at hq
      · rw [List.mem_singleton.1 hq]
        trivial
      · rcases List.mem_cons.1 hq with rfl | hq
        · trivial
        · rcases List.mem_cons.1 hq with rfl | hq
          · trivial
          · exact ih _ _ q hq

theorem wait_isLookup (w : Surroundings ω) (attempts : Int) (m : ω) :
    ∀ q ∈ (w.wait attempts m).asked, q.IsLookup :=
  w.waitFor_isLookup _ _ m

end Surroundings

@[simp] theorem requestsOf_asking (w : Surroundings ω) (q : Question) (r : Run ω) :
    requestsOf (r.asking w q).asked = requestsOf r.asked ++ q.request?.toList := by
  have hone : requestsOf [q] = q.request?.toList := by
    unfold requestsOf
    cases hq : q.request? <;> simp [hq]
  rw [← hone]
  exact requestsOf_append _ _

@[simp] theorem requestsOf_waiting (w : Surroundings ω) (attempts : Int) (m : ω) (r : Run ω) :
    requestsOf (r.waiting (w.wait attempts m)).asked = requestsOf r.asked := by
  have hnone : requestsOf (w.wait attempts m).asked = [] :=
    requestsOf_of_isLookup (w.wait_isLookup attempts m)
  show requestsOf (r.asked ++ (w.wait attempts m).asked) = _
  rw [requestsOf_append, hnone, List.append_nil]

/-! ## Stages -/

namespace Action

variable {β : Type} {x : Action ω α} {f : α → Action ω β} {r' : Run ω}

theorem bind_of_ok {a : α} (h : x w r = (.ok a, r')) : (x >>= f) w r = f a w r' := by
  rw [bind_apply, h]

theorem bind_of_error {failure : Failure} (h : x w r = (.error failure, r')) :
    (x >>= f) w r = (.error failure, r') := by
  rw [bind_apply, h]

/-- What comes of an action is nothing to the run that it leaves. -/
theorem bind_pure_run (x : Action ω α) (b : α → β) (r : Run ω) :
    ((x >>= fun a => pure (b a)) w r).2 = (x w r).2 := by
  rw [bind_apply]
  rcases x w r with ⟨_ | _, _⟩ <;> rfl

end Action

/-! ## Lookups -/

theorem ofExcept_apply (e : Except Failure α) (r : Run ω) :
    Action.ofExcept e w r = (e, r) := by
  cases e <;> rfl

/-- A try tells nothing only while the store does not answer. -/
theorem isTransient_lookedUp (words : List Int) (read : Store → α) (σ : Session) :
    isTransient (σ.lookedUp words read).1 = false := by
  unfold Session.lookedUp
  cases σ.working.fits with
  | false => rfl
  | true => cases words.all Schema.Codec.fitsWord <;> rfl

/-- The run after a wait for the store, and what the lookup behind it tells. -/
def Run.lookedUp (words : List Int) (read : Store → α) (wait : Wait ω) (r : Run ω) :
    Except Failure α × Run ω :=
  if wait.answered then
    ((r.session.lookedUp words read).1,
      { r.waiting wait with session := (r.session.lookedUp words read).2 })
  else (.error .storeUnavailable, r.waiting wait)

theorem lookOnce_apply (words : List Int) (read : Store → α) (r : Run ω) :
    lookOnce words read w r =
      r.lookedUp words read ⟨(w .lookup r.memory).1, (w .lookup r.memory).2, [.lookup]⟩ := by
  unfold lookOnce Run.lookedUp Session.lookedUp Run.waiting
  cases hanswer : (w .lookup r.memory).1 with
  | false => simp [hanswer]
  | true =>
      cases hfits : r.session.working.fits with
      | false => simp [hanswer, hfits]
      | true => by_cases hwords : words.all Schema.Codec.fitsWord <;>
          simp [hanswer, hfits, hwords]

theorem persist_apply (words : List Int) (read : Store → α) (again made : Nat) (r : Run ω) :
    Patience.attemptFrom Patience.pauseAfter isTransient (fun n => Action.ask (.pause n))
        (Action.attempt (lookOnce words read)) again made w r =
      (.ok (r.lookedUp words read (w.waitFor again made r.memory)).1,
        (r.lookedUp words read (w.waitFor again made r.memory)).2) := by
  induction again generalizing made r with
  | zero =>
      unfold Patience.attemptFrom Surroundings.waitFor
      rw [Action.attempt_apply, lookOnce_apply]
  | succ again ih =>
      unfold Patience.attemptFrom Surroundings.waitFor
      simp only [Action.bind_apply, Action.attempt_apply, lookOnce_apply]
      cases hanswer : (w .lookup r.memory).1 with
      | true => simp [Run.lookedUp, isTransient_lookedUp]
      | false =>
          -- Nothing was told, so after a pause the next try begins.
          have hagain := ih (made + 1)
          simp only [Run.lookedUp, Run.waiting] at hagain ⊢
          simp [isTransient, hagain]

theorem look_apply {r : Run ω} (hr : r.session.blocked = none) (s : Settings) (words : List Int)
    (read : Store → α) :
    look s words read w r = r.lookedUp words read (w.wait s.attempts r.memory) := by
  unfold look
  rw [Action.bind_of_ok (Action.unblocked_of_open hr), Patience.retry_standard, Action.bind_apply,
    persist_apply]
  exact ofExcept_apply _ _

/-- A session that is blocked is told so, and the store is not asked. -/
theorem look_blocked {message : String} (hr : r.session.blocked = some message) (s : Settings)
    (words : List Int) (read : Store → α) :
    look s words read w r = (.error (.rollbackPending message), r) :=
  Action.bind_of_error (Action.unblocked_of_blocked hr)

theorem look_course (hr : r.session = .fresh saved) (s : Settings) (words : List Int)
    (read : Store → α) :
    look s words read w r =
      (saved.lookUp words read (w.wait s.attempts r.memory).answered,
        r.waiting (w.wait s.attempts r.memory)) := by
  rw [look_apply (by rw [hr]; rfl)]
  unfold Run.lookedUp
  cases (w.wait s.attempts r.memory).answered with
  | false => rfl
  | true =>
      rw [if_pos rfl, hr, Session.lookedUp_fresh]
      exact Prod.ext rfl (congrArg (Run.mk · _ _) hr.symm)

theorem findEvent_course (hr : r.session = .fresh saved) (s : Settings) (project : Int)
    (event : String) :
    findEvent s project event w r =
      (saved.event s.naming project event (w.wait s.attempts r.memory).answered,
        if (eventNumber s.naming event).isOk then r.waiting (w.wait s.attempts r.memory)
        else r) := by
  unfold findEvent Store.event
  cases eventNumber s.naming event with
  | error failure => rfl
  | ok number =>
      simp only [Action.ofExcept_ok, pure_bind]
      rw [Action.bind_apply, look_course hr]
      cases saved.lookUp [project, ↑number] (fun s => s.row? project number)
          (w.wait s.attempts r.memory).answered with
      | error failure => rfl
      | ok found => cases found <;> rfl

/-- A search that finds an event ends behind the wait for the store. -/
theorem findEvent_found {s : Settings} {project : Int} {event : String} {row : Row}
    (hr : r.session = .fresh saved)
    (h : saved.event s.naming project event (w.wait s.attempts r.memory).answered = .ok row) :
    findEvent s project event w r = (.ok row, r.waiting (w.wait s.attempts r.memory)) := by
  have hread : (eventNumber s.naming event).isOk = true := by
    rw [id_of_names (Store.event_eq_ok_iff_names.1 h).1]
    rfl
  have hsearch := findEvent_course (w := w) hr s project event
  rw [if_pos hread] at hsearch
  exact hsearch.trans (Prod.ext h rfl)

/-! ## Users -/

/-- The user that colleagues tell of, where one has to be. -/
def userOf : Except Failure (Option String) → Except Failure String
  | .error failure => .error failure
  | .ok none => .error .userMissing
  | .ok (some user) => if user.isEmpty then .error .userMissing else .ok user

theorem userOf_eq_ok_iff {answer : Except Failure (Option String)} {user : String} :
    userOf answer = .ok user ↔ answer = .ok (some user) ∧ user ≠ "" := by
  unfold userOf
  rcases answer with failure | _ | told
  · simp
  · simp
  · by_cases htold : told = ""
    · subst htold
      constructor
      · intro h
        cases h
      · rintro ⟨h, hne⟩
        cases h
        exact absurd rfl hne
    · have hnamed : ¬told.isEmpty = true := fun h => htold (String.isEmpty_iff.1 h)
      dsimp only
      rw [if_neg hnamed]
      constructor
      · intro h
        cases h
        exact ⟨rfl, htold⟩
      · rintro ⟨h, -⟩
        cases h
        rfl

theorem userOf_of_nameless {answer : Option String} (h : answer.getD "" = "") :
    userOf (.ok answer) = .error .userMissing := by
  cases answer with
  | none => rfl
  | some user =>
      have huser : user = "" := h
      rw [huser]
      rfl

theorem findUser_course (principal : String) :
    findUser principal w r =
      (userOf (w (.buyerUser principal) r.memory).1, r.asking w (.buyerUser principal)) := by
  unfold findUser userOf Run.asking
  rw [Action.bind_apply, Action.ask_apply]
  rcases (w (.buyerUser principal) r.memory).1 with failure | _ | user
  · rfl
  · rfl
  · simp only [Action.ofExcept_ok, pure_bind]
    split <;> rfl

/-! ## Exchanges -/

section

open Sourcing

variable {p : Platform}

/-- A request is sent once, or not at all where its address is not known. -/
theorem exchange_course (request : Request) :
    exchange p request w r =
      match urlOf p request.endpoint with
      | .ok _ => (.ok (w (.exchange request) r.memory).1, r.asking w (.exchange request))
      | .error failure => (.error failure, r) := by
  unfold exchange Request.wire
  cases urlOf p request.endpoint <;> rfl

/-- A request for a change is sent once, and its answer is taken apart. -/
theorem change_course (request : Request) (read : Json → Except PlatformFault Receipt) :
    (exchangeJson p request >>= fun answer => ofPlatform (read answer)) w r =
      match urlOf p request.endpoint with
      | .ok _ => ((w (.exchange request) r.memory).1.told read request.endpoint,
          r.asking w (.exchange request))
      | .error failure => (.error failure, r) := by
  unfold exchangeJson
  rw [bind_assoc]
  simp only [json_told]
  rw [Action.bind_apply, exchange_course]
  cases urlOf p request.endpoint with
  | error failure => rfl
  | ok url => exact ofExcept_apply _ _

end

end Desk
end TenderDesk
