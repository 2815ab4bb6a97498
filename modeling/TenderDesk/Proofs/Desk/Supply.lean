import TenderDesk.Proofs.Desk.Showing
import TenderDesk.Proofs.Desk.Triple
import TenderDesk.Proofs.Settings.Loading

/-!
# Supply — with loaded settings, nothing fails for want of one

* `Unwanting w x` says of an action that it does not end for want of a setting, unless colleagues
  end it so.
* `Supplied` tells what follows from it that all default entries are there: every request is sent,
  and neither requests nor new records fail for want of a setting.
* `loads_complete` says when settings are loaded, what they have then, and how loading ends
  otherwise.
-/

namespace TenderDesk
namespace Desk

open Sourcing Settings

variable {ω α β : Type} {w : Surroundings ω}

/-! ## Failures for want of a setting -/

/-- Colleagues answer with a failure where a record is prepared. -/
inductive Surroundings.Says (w : Surroundings ω) (failure : Failure) : Prop
  | user {principal : String} {m : ω} (h : (w (.buyerUser principal) m).1 = .error failure) :
      w.Says failure
  | company {principal : String} {m : ω}
      (h : (w (.buyerCompany principal) m).1 = .error failure) : w.Says failure
  | suppliers {framework lot : String} {m : ω}
      (h : (w (.lotSuppliers framework lot) m).1 = .error failure) : w.Says failure

/-- However the action ends, it is not for want of a setting, unless colleagues say so. -/
def Unwanting (w : Surroundings ω) (x : Action ω α) : Prop :=
  ∀ r name, (x w r).1 = .error (.settingMissing name) → w.Says (.settingMissing name)

namespace Unwanting

theorem pure (a : α) : Unwanting w (Pure.pure a) := by
  intro r name h
  cases h

theorem fail {failure : Failure} (h : ∀ name, failure ≠ .settingMissing name) :
    Unwanting w (Action.fail failure : Action ω α) := by
  intro r name hfailure
  cases hfailure
  exact absurd rfl (h name)

theorem ofExcept {e : Except Failure α} (h : ∀ name, e = .error (.settingMissing name) →
    w.Says (.settingMissing name)) : Unwanting w (Action.ofExcept e) := by
  intro r name hfailure
  rw [ofExcept_apply] at hfailure
  exact h name hfailure

theorem bind {x : Action ω α} {f : α → Action ω β} (hx : Unwanting w x)
    (hf : ∀ a, Unwanting w (f a)) : Unwanting w (x >>= f) := by
  intro r name h
  rw [Action.bind_apply] at h
  rcases hresult : x w r with ⟨failure | a, r'⟩
  · rw [hresult] at h
    cases h
    exact hx r name (congrArg Prod.fst hresult)
  · rw [hresult] at h
    exact hf a r' name h

/-- Behind a question, only what is done with its answers matters. -/
theorem ask_bind {q : Question} {f : q.Answer → Action ω β}
    (hf : ∀ m, Unwanting w (f (w q m).1)) : Unwanting w (Action.ask q >>= f) := by
  intro r name h
  exact hf r.memory _ name h

theorem look (settings : Settings) (words : List Int) (read : Store → α) :
    Unwanting w (look settings words read) := by
  intro r name h
  cases hblocked : r.session.blocked with
  | some message =>
      rw [look_blocked hblocked] at h
      cases h
  | none =>
      rw [look_apply hblocked] at h
      unfold Run.lookedUp Session.lookedUp at h
      repeat' split at h
      all_goals cases h

end Unwanting

/-! ## Requests -/

section

variable {p : Platform} {r : Run ω}

/-- Whatever is wrong with a reply, it is no setting. -/
theorem json_ne_settingMissing (endpoint : String) (reply : Reply) (name : String) :
    reply.json endpoint ≠ .error (.settingMissing name) := by
  intro h
  rcases Reply.json_eq_error h with ⟨fault, hfault, -⟩ | hescapes
  · cases hfault
  · cases hescapes

theorem told_ne_settingMissing (read : Json → Except PlatformFault Receipt) (endpoint : String)
    (reply : Reply) (name : String) :
    reply.told read endpoint ≠ .error (.settingMissing name) := by
  unfold Reply.told
  cases hj : reply.json endpoint with
  | error failure =>
      intro h
      cases h
      exact json_ne_settingMissing endpoint reply name hj
  | ok j =>
      show (read j).mapError Failure.platform ≠ .error (.settingMissing name)
      cases read j with
      | error fault => exact nofun
      | ok receipt => exact nofun

theorem change_ne_settingMissing {request : Request} {read : Json → Except PlatformFault Receipt}
    {url : String} (h : urlOf p request.endpoint = .ok url) (name : String) :
    ((exchangeJson p request >>= fun answer => ofPlatform (read answer)) w r).1 ≠
      .error (.settingMissing name) := by
  rw [change_course, h]
  exact told_ne_settingMissing _ _ _ name

/-- No reply to a request for a record makes a setting missing. -/
theorem ofReply_ne_settingMissing (id name : String) (reply : Reply) :
    Snapshot.ofReply id reply ≠ .error (.settingMissing name) := by
  have hitem : ∀ records, Snapshot.firstItem id records ≠ .error (.settingMissing name) := by
    intro records h
    unfold Snapshot.firstItem at h
    split at h
    · cases h
    · split at h <;> cases h
  intro h
  unfold Snapshot.ofReply Snapshot.ofExport at h
  split at h
  · split at h
    · cases h
    · split at h
      · unfold Snapshot.ofItem at h
        split at h <;> cases h
      · rename_i hfirst
        cases h
        exact hitem _ hfirst
    · cases h
  · rename_i hjson
    cases h
    exact json_ne_settingMissing _ _ _ hjson

theorem fileOfReply_ne_settingMissing (key : Document.Key) (name : String) (reply : Reply) :
    fileOfReply key reply ≠ .error (.settingMissing name) := by
  intro h
  unfold fileOfReply at h
  split at h
  · cases h
  · rename_i failure hcontent
    split at h
    · cases h
    · cases h
      exact json_ne_settingMissing _ _ _ (Reply.json_of_content_error hcontent)

end

/-! ## Records -/

section

variable {settings : Settings} {p : Platform}

theorem findUser_unwanting (principal : String) : Unwanting w (findUser principal) := by
  unfold findUser
  refine Unwanting.ask_bind fun m => Unwanting.bind (Unwanting.ofExcept fun name h => ?_) ?_
  · exact .user h
  · rintro (_ | user)
    · exact Unwanting.fail fun _ h => by cases h
    · dsimp only
      split
      · exact Unwanting.fail fun _ h => by cases h
      · exact Unwanting.pure user

theorem links_unwanting (organisations : List String) :
    Unwanting w (links settings organisations) := by
  unfold links
  dsimp only
  split
  · refine Unwanting.bind (Unwanting.pure []) fun found => ?_
    split
    · exact Unwanting.pure found
    · exact Unwanting.fail fun _ h => by cases h
  · refine Unwanting.bind (Unwanting.look _ _ _) fun found => ?_
    split
    · exact Unwanting.pure found
    · exact Unwanting.fail fun _ h => by cases h

theorem lotLinks_unwanting (project : Project) : Unwanting w (lotLinks settings project) := by
  unfold lotLinks
  refine Unwanting.ask_bind fun m => Unwanting.bind (Unwanting.ofExcept fun name h => ?_) ?_
  · exact .suppliers h
  · exact fun organisations => links_unwanting organisations

theorem projectOf_unwanting (row : Row) : Unwanting w (projectOf row) := by
  intro r name h
  unfold projectOf at h
  rw [Action.bind_apply, Action.store_apply] at h
  dsimp only at h
  cases hproject : r.session.working.project? row.project <;>
    rw [hproject] at h <;> cases h

/-- With a template and an address for records, a record is not wanting for a setting. -/
theorem createRecord_unwanting {template url : String}
    (htemplate : creationParameter settings.platform "templateId" = .ok template)
    (hurl : urlOf settings.platform "createRfx" = .ok url) (row : Row)
    {project : Action ω Project} (hproject : Unwanting w project) (principal : String) :
    Unwanting w (createRecord settings row project principal) := by
  unfold createRecord
  refine (findUser_unwanting principal).bind fun user => Unwanting.ask_bind fun m => ?_
  refine Unwanting.bind (Unwanting.ofExcept fun name h => .company h) fun company => ?_
  refine hproject.bind fun project => (lotLinks_unwanting project).bind fun links => ?_
  -- From here on only the settings decide: the template is there, and so is the address.
  rw [htemplate]
  refine (Unwanting.pure template).bind fun template => Unwanting.bind ?_ fun receipt => ?_
  · exact fun r name h => absurd h (change_ne_settingMissing hurl name)
  · exact Unwanting.pure _

end

/-! ## Loaded settings -/

/-- Nothing fails for want of one of the settings. -/
structure Supplied (settings : Settings) : Prop where
  /-- Every request is sent, and the reply comes back. -/
  exchanged : ∀ {ω : Type} (w : Surroundings ω) (r : Run ω) (request : Request),
    exchange settings.platform request w r =
      (.ok (w (.exchange request) r.memory).1, r.asking w (.exchange request))
  parameter : ∀ name : String, ↑name ∈ Platform.defaultCreation.map (·.1) →
    ∃ value, creationParameter settings.platform name = .ok value
  written : ∀ {ω : Type} (w : Surroundings ω) (r : Run ω) (command : Command) (rfx : Rfx) name,
    (writeRecord settings.platform command rfx w r).1 ≠ .error (.settingMissing name)
  uploaded : ∀ {ω : Type} (w : Surroundings ω) (r : Run ω) fileName data change name,
    (uploadFile settings.platform fileName data change w r).1 ≠ .error (.settingMissing name)
  published : ∀ {ω : Type} (w : Surroundings ω) (r : Run ω) order name,
    (publishRecord settings.platform order w r).1 ≠ .error (.settingMissing name)
  shown : ∀ {ω : Type} (w : Surroundings ω) (r : Run ω) id name,
    (fetchRecord settings.platform id w r).1 ≠ .error (.settingMissing name)
  fetched : ∀ {ω : Type} (w : Surroundings ω) (r : Run ω) key name,
    (fetchFile settings.platform key w r).1 ≠ .error (.settingMissing name)
  titled : ∀ project asked kind name,
    titleFor settings.platform project asked kind ≠ .error (.settingMissing name)
  /-- A record is created with its event, or later with the first concrete kind of the event. -/
  created : ∀ {ω : Type} (w : Surroundings ω) row principal,
    (∀ project, Unwanting w (createRecord settings row (Pure.pure project) principal)) ∧
      Unwanting w (createRecord settings row (projectOf row) principal)

/-- The addresses of all requests and the default parameters are enough. -/
theorem supplied_of_present {settings : Settings}
    (hurl : ∀ request : Request, ∃ url, urlOf settings.platform request.endpoint = .ok url)
    (hcreation : ∀ name ∈ Platform.defaultCreation.map (·.1),
      ∃ value, lookup? settings.platform.creation name = some value) : Supplied settings := by
  have hparameter : ∀ name : String, ↑name ∈ Platform.defaultCreation.map (·.1) →
      ∃ value, creationParameter settings.platform name = .ok value := by
    intro name hname
    obtain ⟨value, hvalue⟩ := hcreation name hname
    exact ⟨value.repaired, by rw [creationParameter, hvalue]⟩
  refine ⟨?_, hparameter, ?_, ?_, ?_, ?_, ?_, ?_, ?_⟩
  · intro ω w r request
    obtain ⟨url, hurl⟩ := hurl request
    rw [exchange_course, hurl]
  · intro ω w r command rfx name
    obtain ⟨url, hurl⟩ := hurl (.write ⟨command, rfx⟩)
    exact change_ne_settingMissing hurl name
  · intro ω w r fileName data change name
    obtain ⟨url, hurl⟩ := hurl (.upload fileName data change)
    exact change_ne_settingMissing hurl name
  · intro ω w r order name
    obtain ⟨url, hurl⟩ := hurl (.publish order)
    exact change_ne_settingMissing hurl name
  · intro ω w r id name
    obtain ⟨url, hurl⟩ := hurl (.showRecord id)
    rw [fetchRecord_course, hurl]
    exact ofReply_ne_settingMissing id name _
  · intro ω w r key name
    obtain ⟨url, hurl⟩ := hurl (.showFile key)
    rw [fetchFile_course, hurl]
    exact fileOfReply_ne_settingMissing key name _
  · intro project asked kind name
    obtain ⟨pattern, hpattern⟩ := hparameter "defaultTitleFormat" (by decide)
    unfold titleFor defaultTitle
    rw [hpattern]
    split
    · nofun
    · dsimp only
      split <;> nofun
  · intro ω w row principal
    obtain ⟨template, htemplate⟩ := hparameter "templateId" (by decide)
    obtain ⟨url, hurl⟩ := hurl (.write default)
    refine ⟨fun project => ?_, ?_⟩
    · exact createRecord_unwanting htemplate hurl row (Unwanting.pure project) principal
    · exact createRecord_unwanting htemplate hurl row (projectOf_unwanting row) principal

/-- Loading fails with another fault than that of a value exactly where the first thing that is
wrong is a table that is no object or something that is nested too deeply, and succeeds exactly
where all tables can be read. Then no default entry is missing, what the texts give comes before the
defaults, and nothing fails for want of a setting. -/
theorem loads_complete {s : Source} (hsound : s.Sound) (attempts : Int)
    (endpoints creation statuses : String) :
    let loaded := (s.given endpoints creation statuses).load attempts
    ((∃ fault, loaded = .error fault ∧ fault.isValue = false) ↔
      Astray s endpoints creation statuses) ∧
    ((∃ settings, loaded = .ok settings) ↔ Readable s endpoints creation statuses) ∧
    ∀ settings, loaded = .ok settings →
      Complete s endpoints creation statuses settings ∧ Supplied settings := by
  intro loaded
  have houtcome : Outcome s endpoints creation statuses loaded :=
    load_outcome hsound attempts endpoints creation statuses
  refine ⟨⟨?_, ?_⟩, ⟨?_, load_of_readable hsound attempts⟩, ?_⟩
  · rintro ⟨fault, hfault, hother⟩
    rw [hfault] at houtcome
    cases houtcome with
    | refused hvalue =>
        rw [hvalue] at hother
        cases hother
    | astray hother h => exact h
  · exact load_of_astray hsound attempts
  · rintro ⟨settings, hsettings⟩
    rw [hsettings] at houtcome
    cases houtcome with
    | loaded hreadable h => exact hreadable
  · intro settings hsettings
    have hcomplete : Complete s endpoints creation statuses settings := by
      rw [hsettings] at houtcome
      cases houtcome with
      | loaded hreadable h => exact h
    obtain ⟨ns, -, hcreation⟩ := hcomplete.creation
    exact ⟨hcomplete, supplied_of_present (urlOf_of_load hsettings)
      fun name hname => hcreation.present hname⟩

/-- Settings with nothing out of the ordinary. -/
def plainSource : Source where
  baseUrl := .str "http://remote.test"
  extensions := .arr [.str "pdf"]

theorem plainSource_sound : plainSource.Sound where
  platform := ⟨_, rfl⟩
  extensions := ⟨_, _, rfl, rfl⟩
  documents := fun _ => ⟨_, rfl⟩
  naming := ⟨_, rfl⟩

/-- One more endpoint, no parameters at all, and a table of one status. -/
theorem loads_complete_plain :
    let loaded := (plainSource.given "\x7b\"ping\": \"/ping\"\x7d" ""
      "\x7b\"1\": \"planned\"\x7d").load 3
    plainSource.Sound ∧ ∃ settings, loaded = .ok settings ∧ Supplied settings ∧
      lookup? settings.platform.endpoints "ping" = some "/ping" ∧
      lookup? settings.platform.endpoints "publishRfx" =
        some "/esop/jint/api/public/ja/v1/rfxs/publish" ∧
      settings.platform.creation = Platform.defaultCreation ∧
      settings.statuses = ([("1", .planned)] : List (RawText × Status)) := by
  intro loaded
  let settings : Settings :=
    { platform := {
        baseUrl := "http://remote.test"
        endpoints := Platform.defaultEndpoints.concat ("ping", "/ping")
        creation := Platform.defaultCreation }
      statuses := [("1", .planned)]
      documents :=
        { extensions := ["pdf"], maxSize := 300 * 1024 * 1024, maxTotal := 1024 * 1024 * 1024 } }
  have hload : loaded = .ok settings := by decide +kernel
  have hsupplied := (loads_complete plainSource_sound 3 "\x7b\"ping\": \"/ping\"\x7d" ""
    "\x7b\"1\": \"planned\"\x7d").2.2 settings hload
  exact ⟨plainSource_sound, settings, hload, hsupplied.2, by decide, by decide, rfl, rfl⟩

/-- A list in the place of the endpoints ends the loading, but not with a fault of a value. -/
theorem loading_astray :
    plainSource.Sound ∧ (plainSource.given "[]" "" "").load 3 = .error (.notObject "list") ∧
      (SourceFault.notObject "list").isValue = false :=
  ⟨plainSource_sound, by decide +kernel, rfl⟩

end Desk
end TenderDesk
