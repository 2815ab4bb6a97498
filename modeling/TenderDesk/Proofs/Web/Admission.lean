import TenderDesk.Proofs.Desk.Leftovers
import TenderDesk.Web.Service

/-!
# Admission — whom the desk listens to over the web

A request for an operation is admitted if it shows the token of the gate in the bearer scheme. All
others are answered before the desk is asked for anything.

* `Shows` takes the text of an authorization apart, and `Unadmitted` lists what may be wrong with
  it: requests pass the check of the token exactly when nothing is wrong (`authenticate_cases`).
* `unadmitted_unheard`: an unadmitted request is answered with an error, which is the same whatever
  the desk would have done, and the desk is left as it was.
-/

namespace TenderDesk
namespace Web

/-! ## Authorizations -/

/-- An authorization shows credentials in a scheme. The scheme ends at the first blank; where there
is none, all of the text is the scheme. -/
inductive Shows : String → String → String → Prop
  | credentials {scheme : String} (h : ' ' ∉ scheme.toList) (credentials : String) :
      Shows (scheme ++ " " ++ credentials) scheme credentials
  | bare {scheme : String} (h : ' ' ∉ scheme.toList) : Shows scheme scheme ""

theorem takeWhile_nonblank {cs : List Char} (h : ' ' ∉ cs) (rest : List Char) :
    (cs ++ rest).takeWhile (· != ' ') = cs ++ rest.takeWhile (· != ' ') := by
  apply List.takeWhile_append_of_pos
  intro c hc
  exact bne_iff_ne.2 fun heq => h (heq ▸ hc)

theorem splitAuthorization_of_shows {value scheme credentials : String}
    (h : Shows value scheme credentials) : splitAuthorization value = (scheme, credentials) := by
  unfold splitAuthorization
  cases h with
  | credentials hscheme =>
      have htext : (scheme ++ " " ++ credentials).toList =
          scheme.toList ++ ' ' :: credentials.toList := by
        simp
      simp [htext, takeWhile_nonblank hscheme]
  | bare hscheme =>
      have htext := takeWhile_nonblank hscheme []
      rw [List.append_nil] at htext
      simp [htext]

theorem shows_splitAuthorization (value : String) :
    Shows value (splitAuthorization value).1 (splitAuthorization value).2 := by
  by_cases hblank : ' ' ∈ value.toList
  · obtain ⟨front, rest, htext, hfront⟩ := List.eq_append_cons_of_mem hblank
    have hvalue : value = String.ofList front ++ " " ++ String.ofList rest := by
      rw [← String.toList_inj, htext]
      simp
    have hshows : Shows value (String.ofList front) (String.ofList rest) := by
      rw [hvalue]
      exact .credentials (by simpa using hfront) _
    rw [splitAuthorization_of_shows hshows]
    exact hshows
  · have hshows : Shows value value "" := .bare hblank
    rw [splitAuthorization_of_shows hshows]
    exact hshows

/-- What is wrong with the authorization of a request: there is none, its scheme is another one, or
it shows another token than that of the gate. -/
inductive Unadmitted (gate : Gate) (r : Request) : Prop
  | missing (h : r.header? "authorization" = none)
  | otherScheme {value scheme credentials : String} (h : r.header? "authorization" = some value)
      (hshows : Shows value scheme credentials) (hscheme : foldCase scheme ≠ "bearer")
  | otherToken {value scheme token : String} (h : r.header? "authorization" = some value)
      (hshows : Shows value scheme token) (htoken : gate.token ≠ some token)

theorem bearerToken?_of_header {r : Request} {value scheme token : String}
    (h : r.header? "authorization" = some value) (hshows : Shows value scheme token) :
    bearerToken? r = if foldCase scheme == "bearer" then some token else none := by
  unfold bearerToken?
  rw [h, Option.bind_eq_bind, Option.bind_some, splitAuthorization_of_shows hshows]

/-- Requests with which something is wrong are refused, and no others are. -/
theorem authenticate_cases (gate : Gate) (r : Request) :
    Unadmitted gate r ∧
        (∃ answer, authenticate gate r = .error answer ∧ answer.status = 401) ∨
      ¬Unadmitted gate r ∧ authenticate gate r = .ok () := by
  cases hheader : r.header? "authorization" with
  | none =>
      have hnone : bearerToken? r = none := by
        unfold bearerToken?
        rw [hheader]
        rfl
      refine .inl ⟨.missing hheader, unauthenticated, ?_, rfl⟩
      unfold authenticate
      rw [hnone]
  | some value =>
      have hshows := shows_splitAuthorization value
      generalize (splitAuthorization value).1 = scheme at hshows
      generalize (splitAuthorization value).2 = token at hshows
      have hbearer := bearerToken?_of_header hheader hshows
      unfold authenticate
      rw [hbearer]
      by_cases hscheme : foldCase scheme = "bearer"
      · rw [if_pos (beq_iff_eq.2 hscheme)]
        dsimp only
        by_cases htoken : gate.token = some token
        · refine .inr ⟨?_, if_pos htoken.symm⟩
          -- A text is taken apart in one way only.
          have unique : ∀ {value' scheme' token' : String},
              r.header? "authorization" = some value' → Shows value' scheme' token' →
                scheme' = scheme ∧ token' = token := by
            intro value' scheme' token' hheader' hshows'
            rw [hheader] at hheader'
            cases hheader'
            have hsplit := splitAuthorization_of_shows hshows
            rw [splitAuthorization_of_shows hshows'] at hsplit
            exact ⟨congrArg Prod.fst hsplit, congrArg Prod.snd hsplit⟩
          intro h
          cases h with
          | missing h =>
              rw [hheader] at h
              cases h
          | otherScheme h hshows' hne => exact hne ((unique h hshows').1 ▸ hscheme)
          | otherToken h hshows' hne => exact hne ((unique h hshows').2 ▸ htoken)
        · refine .inl ⟨.otherToken hheader hshows htoken, _, if_neg fun h => htoken h.symm, rfl⟩
      · rw [if_neg fun h => hscheme (beq_iff_eq.1 h)]
        exact .inl ⟨.otherScheme hheader hshows hscheme, unauthenticated, rfl, rfl⟩

/-! ## Requests -/

/-- The status says that the request is at fault. -/
def Response.IsRefusal (answer : Response) : Prop :=
  400 ≤ answer.status ∧ answer.status < 500

theorem Response.IsRefusal.of_status {answer : Response} (status : Nat)
    (h : answer.status = status) (hrange : 400 ≤ status ∧ status < 500) : answer.IsRefusal := by
  unfold IsRefusal
  rw [h]
  exact hrange

theorem bodyValue_refusal {r : Request} {answer : Response}
    (h : bodyValue r = .error answer) : answer.IsRefusal := by
  unfold bodyValue at h
  split at h
  · cases h
  · extract_lets text at h
    split at h
    · cases h
    · split at h
      · cases h
      · cases h
      · -- Text that is no JSON is told apart from text that breaks off.
        split at h
        · cases h
          exact .of_status 422 rfl (by decide)
        · cases h
          exact .of_status 400 rfl (by decide)
  · cases h
  · cases h

theorem bodyFor_refusal {r : Request} {operation : Operation} {answer : Response}
    (h : bodyFor r operation = .error answer) : answer.IsRefusal := by
  unfold bodyFor at h
  split at h <;> first | exact bodyValue_refusal h | cases h

/-- Whether the desk is ready is looked at behind the token. -/
theorem callOf_of_unadmitted {gate : Gate} {r : Request} (h : Unadmitted gate r)
    (operation : Operation) :
    ∃ answer : Response, answer.IsRefusal ∧
      ∀ isReady, callOf { gate with isReady } r operation = .error answer := by
  rcases authenticate_cases gate r with ⟨-, answer, hrefused, hstatus⟩ | ⟨hadmitted, -⟩
  · have same : ∀ isReady, authenticate { gate with isReady } r = authenticate gate r :=
      fun _ => rfl
    cases hbody : bodyFor r operation with
    | error unread =>
        refine ⟨unread, bodyFor_refusal hbody, fun isReady => ?_⟩
        unfold callOf
        rw [hbody]
    | ok body =>
        refine ⟨answer, .of_status 401 hstatus (by decide), fun isReady => ?_⟩
        unfold callOf
        rw [hbody, same, hrefused]
  · exact absurd h hadmitted

theorem operation?_options (route : Route) : route.operation? "OPTIONS" = none := by
  cases route <;> rfl

/-- Browsers that ask whether a call would be allowed do not ask for an operation. -/
theorem askedMethod?_of_operation {r : Request} {operation : Operation}
    (h : r.target = .operation operation) : Origin.askedMethod? r = none := by
  unfold Origin.askedMethod?
  split
  · rename_i hmethod
    unfold Request.target at h
    rw [beq_iff_eq.1 hmethod] at h
    split at h
    · rw [operation?_options] at h
      cases h
    · split at h <;> cases h
  · rfl

theorem status_withGrants (allowed : List String) (origin : String) (answer : Response) :
    (withGrants allowed origin answer).status = answer.status := by
  unfold withGrants
  split <;> rfl

/-- The answer to an unadmitted request does not go by the desk. -/
theorem dispatch_of_unadmitted {gate : Gate} {r : Request} {operation : Operation}
    (hoperation : r.target = .operation operation) (h : Unadmitted gate r) :
    ∃ answer : Response, answer.IsRefusal ∧ ∀ (isReady : Bool) (s : Settings) (ω : Type),
      (dispatch { gate with isReady } s r : Desk.Action ω Response) = pure answer := by
  obtain ⟨answer, hrefusal, hcall⟩ := callOf_of_unadmitted h operation
  refine ⟨answer, hrefusal, fun isReady s ω => ?_⟩
  unfold dispatch
  rw [hoperation]
  dsimp only
  rw [hcall isReady]

/-- A request for an operation that does not show the token of the gate is answered with an error.
The answer is the same for every table, all surroundings and all settings, whether the desk is ready
or not; nobody is asked for anything, and the table is left as it was. -/
theorem unadmitted_unheard (gate : Gate) (r : Request) (operation : Operation)
    (hoperation : r.target = .operation operation) (h : Unadmitted gate r) :
    ∃ answer : Response, (400 ≤ answer.status ∧ answer.status < 500) ∧
      ∀ (isReady : Bool) (s : Settings) (ω : Type) (w : Desk.Surroundings ω) (run : Desk.Run ω),
        serve { gate with isReady } s r w run = (.ok answer, run) := by
  obtain ⟨answer, hrefusal, hdispatch⟩ := dispatch_of_unadmitted hoperation h
  cases horigin : r.header? "origin" with
  | none =>
      refine ⟨answer, hrefusal, fun isReady s ω w run => ?_⟩
      unfold serve
      rw [horigin]
      dsimp only
      rw [hdispatch]
      rfl
  | some origin =>
      refine ⟨withGrants gate.origins origin answer, ?_, fun isReady s ω w run => ?_⟩
      · rw [status_withGrants]
        exact hrefusal
      · unfold serve
        rw [horigin]
        dsimp only
        rw [askedMethod?_of_operation hoperation, hdispatch]
        rfl

/-- A request to change the name of an event. -/
def renameRequest (authorization : String) : Request where
  method := "PUT"
  path := "/tenders/projects/1/events/ocds-b5fd17-1"
  headers := [("Authorization", authorization), ("X-Principal", "buyer")]
  body := .json "\x7b\"name\": \"Paper\"\x7d"

/-- The token alone does not help where the scheme is another one. In the bearer scheme, however it
is written, the same request changes the name. -/
theorem unadmitted_unheard_bench :
    let gate : Gate := { token := some "secret" }
    let run : Desk.Run Desk.Scene := .start Desk.bareStore Desk.bareScene
    let answered := fun authorization =>
      serve gate Desk.benchSettings (renameRequest authorization) Desk.Scene.surroundings run
    (renameRequest "Basic secret").target = .operation (.updateEvent "1" "ocds-b5fd17-1") ∧
      Unadmitted gate (renameRequest "Basic secret") ∧
      (∃ answer : Response, (400 ≤ answer.status ∧ answer.status < 500) ∧
        answered "Basic secret" = (.ok answer, run)) ∧
      (answered "BEARER secret").1.map (·.status) = .ok 200 ∧
      (answered "BEARER secret").2.session.saved.rows.map (·.name) = ["Paper"] := by
  intro gate run answered
  have htarget : (renameRequest "Basic secret").target =
      .operation (.updateEvent "1" "ocds-b5fd17-1") := by decide +kernel
  have hshows : Shows ("Basic" ++ " " ++ "secret") "Basic" "secret" :=
    .credentials (by decide) "secret"
  have hunadmitted : Unadmitted gate (renameRequest "Basic secret") :=
    .otherScheme rfl hshows (by decide)
  obtain ⟨answer, hrefusal, hserve⟩ := unadmitted_unheard gate _ _ htarget hunadmitted
  exact ⟨htarget, hunadmitted, ⟨answer, hrefusal, hserve true _ _ _ _⟩, by decide +kernel,
    by decide +kernel⟩

end Web
end TenderDesk
