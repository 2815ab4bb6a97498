import TenderDesk.Desk.Rehearsal
import TenderDesk.Proofs.Desk.Agreement

/-!
# Recorded — when events of the platform have records

A receipt need not tell the id of the record that was created, and the desk stores whatever it
tells. So events of the platform have their records as long as the receipts of created records
identify them, and then no event gets a second one.

* `Turn.record_cases` says what a turn does about records, everything else follows from it.
-/

namespace TenderDesk

/-- An event of the platform has a record. -/
def Row.Recorded (row : Row) : Prop :=
  ∀ kind : EventKind, row.kind = kind.name → kind.owner = .platform → row.record?.isSome

def Store.Recorded (s : Store) : Prop :=
  ∀ row ∈ s.rows, row.Recorded

namespace Sourcing

/-- An order to create a record. -/
def Request.isCreation : Request → Bool
  | .write ⟨.createFromTemplate, _⟩ => true
  | _ => false

/-- A receipt that tells the id of the record. -/
def Receipt.identifies (receipt : Receipt) : Bool :=
  receipt.id.get?.any fun id => !id.isEmpty

end Sourcing

namespace Desk

open Schema Sourcing

/-! ## Rows -/

theorem recorded_of_owner {row : Row} {kind : EventKind} (hkind : row.kind = kind.name)
    (howner : kind.owner ≠ .platform) : row.Recorded := by
  intro k hk hplatform
  have hsame : k = kind := EventKind.eq_of_name hk hkind
  exact absurd (hsame ▸ hplatform) howner

theorem recorded_of_record {row : Row} (h : row.record?.isSome) : row.Recorded :=
  fun _ _ _ => h

theorem record?_withReceipt (row : Row) (receipt : Receipt) :
    (withReceipt row receipt).record?.isSome = receipt.identifies := by
  unfold withReceipt Row.record? Receipt.identifies
  cases receipt.id.get? with
  | none => rfl
  | some id => by_cases h : id.isEmpty <;> simp [h]

theorem recorded_replace {saved : Store} {row : Row} (h : saved.Recorded) (hrow : row.Recorded) :
    (saved.replace row).Recorded := by
  intro r hr
  rcases Store.mem_replace hr with rfl | ⟨hold, -⟩
  · exact hrow
  · exact h r hold

theorem recorded_add {saved : Store} {row : Row} (h : saved.Recorded) (hrow : row.Recorded) :
    (saved.add row).Recorded := by
  intro r hr
  rcases Store.mem_add.1 hr with hold | rfl
  · exact h r hold
  · exact hrow

/-! ## Turns -/

/-- The number of the event that a call may create a record for. -/
def Call.subject? (s : Settings) (saved : Store) : Call → Option Nat
  | .createEvent _ _ _ _ => some saved.nextId
  | .updateEvent _ event _ _ => (eventNumber s.naming event).toOption
  | _ => none

variable {s : Settings} {saved saved' : Store} {call : Call} {ws : List Write}

/-- A record was created for an event without one, and `row` is what was saved of the event. -/
structure CreatesFor (s : Settings) (saved : Store) (call : Call) (receipt : Receipt) (row : Row)
    (saved' : Store) : Prop where
  subject : call.subject? s saved = some row.id
  unrecorded : ∀ old ∈ saved.rows, old.id = row.id → old.record? = none
  mem : row ∈ saved'.rows
  platform : ∃ kind : EventKind, row.kind = kind.name ∧ kind.owner = .platform
  identified : row.record?.isSome = receipt.identifies
  others : ∀ other ∈ saved'.rows, other ≠ row → other.Recorded

theorem Equipped.record_cases {project : Int} {request : NewEvent} {downSelected : Bool}
    {principal : String} {row row' : Row} {kind : EventKind}
    (h : Equipped row kind principal ws row') (hkind : row.kind = kind.name)
    (hr : saved.Recorded) :
    (∀ write ∈ ws, write.1.isCreation = false) ∧
        (saved.add { row' with id := saved.nextId }).Recorded ∨
      ∃ rfx receipt, ws = [(creation rfx, receipt)] ∧
        CreatesFor s saved (.createEvent project request downSelected principal) receipt
          { row' with id := saved.nextId } (saved.add { row' with id := saved.nextId }) := by
  cases h with
  | assessed howner id organisations =>
      let linked : Row := { row with assessment := some id }
      have hlinked : (withSuppliers linked organisations true principal).kind = kind.name := by
        rw [withSuppliers_eq]
        exact hkind
      have hrow := recorded_of_owner hlinked (by rw [howner]; decide)
      exact .inl ⟨List.forall_mem_nil _, recorded_add hr hrow⟩
  | recorded howner rfx receipt hrfx =>
      right
      refine ⟨rfx, receipt, rfl, ?_⟩
      exact {
        subject := rfl
        unrecorded := by
          intro old hold hid
          -- No row of the store has the number of the new one.
          have hlt : old.id < saved.nextId := Store.id_lt_nextId hold
          exact absurd hid (Nat.ne_of_lt hlt)
        mem := Store.mem_add.2 (.inr rfl)
        platform := ⟨kind, hkind, howner⟩
        identified := record?_withReceipt row receipt
        others := by
          intro other hother hne
          rcases Store.mem_add.1 hother with hold | hnew
          · exact hr other hold
          · exact absurd hnew hne }
  | unowned howner assessment hnone =>
      have hrow : Row.Recorded { row with assessment } :=
        recorded_of_owner hkind (by rw [howner]; decide)
      exact .inl ⟨List.forall_mem_nil _, recorded_add hr hrow⟩

theorem Brought.record_cases {project : Int} {event : String} {edit : EventEdit}
    {principal : String} {before row row' : Row} (h : Brought before edit row ws row')
    (hbefore : Names s.naming saved project event before) (hrow : Revised before edit row)
    (hs : saved.Sound) (hr : saved.Recorded) :
    (∀ write ∈ ws, write.1.isCreation = false) ∧
        (saved.replace { row' with updatedBy := principal }).Recorded ∨
      ∃ rfx receipt, ws = [(creation rfx, receipt)] ∧
        CreatesFor s saved (.updateEvent project event edit principal) receipt
          { row' with updatedBy := principal }
          (saved.replace { row' with updatedBy := principal }) := by
  have hmem : before ∈ saved.rows := hbefore.mem
  cases h with
  | recorded kind hkind howner hnone rfx receipt hrfx =>
      right
      refine ⟨rfx, receipt, rfl, ?_⟩
      exact {
        subject := by
          show (eventNumber s.naming event).toOption = some row.id
          rw [id_of_names hbefore, hrow.id]
          rfl
        unrecorded := by
          intro old hold hid
          have hsame : old = before :=
            hs.numbered.eq_of_id_eq hold hmem (hid.trans hrow.id)
          -- An edit does not touch the record of its row.
          have hkept : before.record? = row.record? := by
            unfold Row.record?
            rw [hrow.externalId]
          rw [hsame, hkept]
          exact hnone
        mem := Store.mem_replace_of_mem hmem hrow.id.symm
        platform := ⟨kind, ofName_eq_ok_iff.1 hkind, howner⟩
        identified := record?_withReceipt row receipt
        others := by
          intro other hother hne
          rcases Store.mem_replace hother with hnew | ⟨hold, -⟩
          · exact absurd hnew hne
          · exact hr other hold }
  | retitled hsome name hname receipt =>
      refine .inl ⟨?_, recorded_replace hr (recorded_of_record hsome)⟩
      intro write hwrite
      rw [List.mem_singleton.1 hwrite]
      rfl
  | left kind hkind hnone hsome =>
      refine .inl ⟨List.forall_mem_nil _, recorded_replace hr ?_⟩
      intro k hk howner
      have hsame : k = kind := EventKind.eq_of_name hk (ofName_eq_ok_iff.1 hkind)
      have hrecord : row.record? ≠ none := fun h => hnone h (hsame ▸ howner)
      exact Option.isSome_iff_ne_none.2 hrecord

/-- Without an edit no record is created, unless one was missing. -/
theorem Brought.no_creation {before row row' : Row} {edit : EventEdit}
    (h : Brought before edit row ws row') (hrow : Revised before edit row)
    (hmem : before ∈ saved.rows) (hedit : isEdit edit = false) (hr : saved.Recorded) :
    ∀ write ∈ ws, write.1.isCreation = false := by
  cases h with
  | recorded kind hkind howner hnone rfx receipt hrfx =>
      have hbefore : before.kind = kind.name :=
        (hrow.kind_of_no_edit hedit).symm.trans (ofName_eq_ok_iff.1 hkind)
      -- Without an edit the event was of the platform before, where none is missing.
      have hrecord : before.record?.isSome := hr before hmem kind hbefore howner
      have hkept : before.record? = row.record? := by
        unfold Row.record?
        rw [hrow.externalId]
      rw [hkept, hnone] at hrecord
      cases hrecord
  | retitled hsome name hname receipt =>
      intro write hwrite
      rw [List.mem_singleton.1 hwrite]
      rfl
  | left => exact List.forall_mem_nil _

/-- A turn leaves events of the platform recorded, or it creates a record for one that had none. -/
theorem Turn.record_cases (h : Turn s saved call ws saved') (hs : saved.Sound)
    (hr : saved.Recorded) :
    (∀ write ∈ ws, write.1.isCreation = false) ∧ saved'.Recorded ∨
      ∃ rfx receipt row, ws = [(creation rfx, receipt)] ∧
        CreatesFor s saved call receipt row saved' := by
  have none_written : ∀ write ∈ ([] : List Write), write.1.isCreation = false :=
    List.forall_mem_nil _
  have other_written : ∀ {request : Request} {receipt : Receipt}, request.isCreation = false →
      ∀ write ∈ [(request, receipt)], write.1.isCreation = false := by
    intro request receipt hrequest write hwrite
    rw [List.mem_singleton.1 hwrite]
    exact hrequest
  cases h with
  | still => exact .inl ⟨none_written, hr⟩
  | opened p hproject name hname hrow =>
      rcases hrow.record_cases (s := s) rfl hr with hleft | ⟨rfx, receipt, hws, hcreates⟩
      · exact .inl hleft
      · exact .inr ⟨rfx, receipt, _, hws, hcreates⟩
  | edited hbefore hrow hrow' hedit =>
      rcases hrow'.record_cases hbefore hrow hs hr with hleft | ⟨rfx, receipt, hws, hcreates⟩
      · exact .inl hleft
      · exact .inr ⟨rfx, receipt, _, hws, hcreates⟩
  | unsaved hbefore hrow hrow' hedit =>
      exact .inl ⟨hrow'.no_creation hrow hbefore.mem hedit hr, hr⟩
  | selected hrow hkeeper =>
      rcases owner_of_keeper hkeeper with ⟨kind, hkind, howner⟩
      refine .inl ⟨none_written, recorded_replace hr ?_⟩
      exact recorded_of_owner (by rw [withSuppliers_eq]; exact hkind) (by rw [howner]; decide)
  | listed => exact .inl ⟨other_written (by split <;> rfl), hr⟩
  | deselected hrow hkeeper hmem =>
      rcases owner_of_keeper hkeeper with ⟨kind, hkind, howner⟩
      refine .inl ⟨none_written, recorded_replace hr ?_⟩
      exact recorded_of_owner hkind (by rw [howner]; decide)
  | delisted => exact .inl ⟨other_written rfl, hr⟩
  | uploaded => exact .inl ⟨other_written rfl, hr⟩
  | published => exact .inl ⟨other_written rfl, hr⟩

/-- The receipts of created records identify them. -/
def identified (ws : List Write) : Bool :=
  ws.all fun write => !write.1.isCreation || write.2.identifies

/-- Whether events of the platform stay recorded is up to the receipts. -/
theorem Turn.recorded_iff (h : Turn s saved call ws saved') (hs : saved.Sound)
    (hr : saved.Recorded) : saved'.Recorded ↔ identified ws = true := by
  rcases h.record_cases hs hr with ⟨hnone, hr'⟩ | ⟨rfx, receipt, row, rfl, hcreates⟩
  · refine ⟨fun _ => ?_, fun _ => hr'⟩
    unfold identified
    apply List.all_eq_true.2
    intro write hwrite
    rw [hnone write hwrite]
    rfl
  · have hone : identified [(creation rfx, receipt)] = receipt.identifies := by
      simp [identified, Request.isCreation]
    rw [hone, ← hcreates.identified]
    constructor
    · intro hr'
      -- The event of the new record is of the platform, so it has an id if all have.
      rcases hcreates.platform with ⟨kind, hkind, howner⟩
      exact hr' row hcreates.mem kind hkind howner
    · intro hrecord other hother
      by_cases hsame : other = row
      · exact hsame ▸ recorded_of_record hrecord
      · exact hcreates.others other hother hsame

/-- The numbers of the events that changes created records for. -/
def createdFor (s : Settings) (saved : Store) (call : Call) (ws : List Write) : List Nat :=
  (ws.filter fun write => write.1.isCreation).filterMap fun _ => call.subject? s saved

/-- A record is created for one event at most, which has none before and one afterwards. -/
theorem Turn.createdFor_cases (h : Turn s saved call ws saved') (hs : saved.Sound)
    (hr : saved.Recorded) (hi : identified ws = true) :
    createdFor s saved call ws = [] ∨ ∃ row ∈ saved'.rows,
      createdFor s saved call ws = [row.id] ∧ row.record?.isSome ∧
        ∀ old ∈ saved.rows, old.id = row.id → old.record? = none := by
  rcases h.record_cases hs hr with ⟨hnone, -⟩ | ⟨rfx, receipt, row, rfl, hcreates⟩
  · left
    have hfilter : (ws.filter fun write => write.1.isCreation) = [] := by
      apply List.filter_eq_nil_iff.2
      intro write hwrite
      rw [hnone write hwrite]
      exact Bool.false_ne_true
    unfold createdFor
    rw [hfilter]
    rfl
  · right
    have hidentifies : receipt.identifies = true := by
      simpa [identified, Request.isCreation] using hi
    refine ⟨row, hcreates.mem, ?_, hcreates.identified.trans hidentifies, hcreates.unrecorded⟩
    simp [createdFor, Request.isCreation, hcreates.subject]

/-! ## Histories -/

namespace World

variable {ω : Type} {w : Surroundings ω} {x : World ω}

/-- All receipts of records that the visits create identify them. -/
def Identifies (s : Settings) (w : Surroundings ω) : World ω → List Call → Prop
  | _, [] => True
  | x, call :: calls =>
      identified (x.writes s w call) = true ∧ Identifies s w (x.visit s w call) calls

instance decidableIdentifies : (x : World ω) → (calls : List Call) →
    Decidable (x.Identifies s w calls)
  | _, [] => isTrue trivial
  | x, call :: calls =>
      have := decidableIdentifies (x.visit s w call) calls
      inferInstanceAs (Decidable (_ ∧ _))

/-- When the call succeeds with an event of the platform, the saved event has a record. -/
def Confirms (s : Settings) (w : Surroundings ω) (x : World ω) (call : Call) : Prop :=
  ∀ result told, (x.outcome s w call).1 = .ok result → call.told? result = some told →
    told.kind.owner = .platform →
      ∃ row ∈ (x.visit s w call).saved.rows, row.publicId = told.id ∧ row.record?.isSome

/-- All calls confirm. -/
def Confirmed (s : Settings) (w : Surroundings ω) : World ω → List Call → Prop
  | _, [] => True
  | x, call :: calls => x.Confirms s w call ∧ Confirmed s w (x.visit s w call) calls

/-- The numbers of the events that records were created for, in the order of their creation. -/
def creations (s : Settings) (w : Surroundings ω) : World ω → List Call → List Nat
  | _, [] => []
  | x, call :: calls =>
      createdFor s x.saved call (x.writes s w call) ++ creations s w (x.visit s w call) calls

theorem visit_recorded (hs : x.saved.Sound) (hr : x.saved.Recorded) {call : Call}
    (hi : identified (x.writes s w call) = true) : (x.visit s w call).saved.Recorded := by
  rcases visit_cases s w x call with ⟨hturn, -⟩ | ⟨-, hsame⟩
  · exact (hturn.recorded_iff hs hr).2 hi
  · rw [hsame]
    exact hr

theorem confirms_of_recorded (call : Call) (hr : (x.visit s w call).saved.Recorded) :
    x.Confirms s w call := by
  intro result told hresult htold howner
  rcases hout : x.outcome s w call with ⟨outcome, r⟩
  have hok : outcome = .ok result := by
    rw [hout] at hresult
    exact hresult
  subst hok
  rcases visit_tells hout htold with ⟨row, hmem, hid, hkind⟩
  have hsaved : (x.visit s w call).saved = r.session.saved := by
    unfold visit
    rw [hout]
  rw [← hsaved] at hmem
  exact ⟨row, hmem, hid, hr row hmem told.kind hkind howner⟩

theorem confirmed_of_identifies (hs : x.saved.Sound) (hr : x.saved.Recorded) {calls : List Call}
    (hi : x.Identifies s w calls) : x.Confirmed s w calls := by
  induction calls generalizing x with
  | nil => trivial
  | cons call calls ih =>
      have hr' : (x.visit s w call).saved.Recorded := visit_recorded hs hr hi.1
      exact ⟨confirms_of_recorded call hr', ih (visit_sound hs call).1 hr' hi.2⟩

/-- Where no commit fails, every unidentified record shows in a saved event. -/
theorem recorded_iff_identifies (hs : x.saved.Sound) (hr : x.saved.Recorded) {calls : List Call}
    (hc : x.Commits s w calls) :
    (∀ n, (x.visits s w (calls.take n)).saved.Recorded) ↔ x.Identifies s w calls := by
  induction calls generalizing x with
  | nil =>
      refine ⟨fun _ => trivial, fun _ n => ?_⟩
      rw [List.take_nil]
      exact hr
  | cons call calls ih =>
      rcases hc with ⟨hcommits, hrest⟩
      have hiff : (x.visit s w call).saved.Recorded ↔ identified (x.writes s w call) = true := by
        rcases visit_cases s w x call with ⟨hturn, -⟩ | ⟨hfails, -⟩
        · exact hturn.recorded_iff hs hr
        · exact absurd hfails hcommits
      have hs' : (x.visit s w call).saved.Sound := (visit_sound hs call).1
      constructor
      · intro hall
        have hr' : (x.visit s w call).saved.Recorded := hall 1
        exact ⟨hiff.1 hr', (ih hs' hr' hrest).1 fun n => hall (n + 1)⟩
      · rintro ⟨hfirst, hlater⟩ n
        have hr' : (x.visit s w call).saved.Recorded := hiff.2 hfirst
        cases n with
        | zero => exact hr
        | succ n => exact (ih hs' hr' hrest).2 hlater n

/-- An event that has its record gets no other, so no event gets two. -/
theorem creations_nodup (hs : x.saved.Sound) (hr : x.saved.Recorded) {calls : List Call}
    (hc : x.Commits s w calls) (hi : x.Identifies s w calls) :
    (x.creations s w calls).Nodup ∧ ∀ number ∈ x.creations s w calls,
      ∀ row ∈ x.saved.rows, row.id = number → row.record? = none := by
  induction calls generalizing x with
  | nil => exact ⟨List.nodup_nil, List.forall_mem_nil _⟩
  | cons call calls ih =>
      rcases hc with ⟨hcommits, hrest⟩
      rcases hi with ⟨hfirst, hlater⟩
      have hs' : (x.visit s w call).saved.Sound := (visit_sound hs call).1
      have hevolves : x.saved.Evolves (x.visit s w call).saved := (visit_sound hs call).2
      have hr' : (x.visit s w call).saved.Recorded := visit_recorded hs hr hfirst
      rcases ih hs' hr' hrest hlater with ⟨hnodup, hfree⟩
      -- What is without a record afterwards was without one before.
      have earlier : ∀ number ∈ (x.visit s w call).creations s w calls,
          ∀ row ∈ x.saved.rows, row.id = number → row.record? = none := by
        intro number hnumber row hrow hid
        rcases hevolves row hrow with ⟨row', hrow', hbecomes⟩
        have hnone : row'.record? = none := hfree number hnumber row' hrow' (hbecomes.id.trans hid)
        apply Option.eq_none_iff_forall_ne_some.2
        intro id hsome
        rcases Row.record?_eq_some_iff.1 hsome with ⟨hexternal, hne⟩
        have hkept := hbecomes.record id hne hexternal
        rw [Row.record?_eq_some_iff.2 ⟨hkept, hne⟩] at hnone
        cases hnone
      have hturn : Turn s x.saved call (x.writes s w call) (x.visit s w call).saved := by
        rcases visit_cases s w x call with ⟨hturn, -⟩ | ⟨hfails, -⟩
        · exact hturn
        · exact absurd hfails hcommits
      unfold creations
      rcases hturn.createdFor_cases hs hr hfirst with hnil | ⟨row, hrow, hone, hrecord, hbefore⟩
      · rw [hnil, List.nil_append]
        exact ⟨hnodup, earlier⟩
      · rw [hone, List.singleton_append]
        constructor
        · refine List.nodup_cons.2 ⟨fun hagain => ?_, hnodup⟩
          -- A second record would be for an event without one, and this one has its record.
          rw [hfree row.id hagain row hrow rfl] at hrecord
          cases hrecord
        · intro number hnumber old hold hid
          rcases List.mem_cons.1 hnumber with hsame | hmem
          · exact hbefore old hold (hid.trans hsame)
          · exact earlier number hmem old hold hid

theorem opening_recorded (projects : List Project) (links : List Link) (m : ω) :
    (opening projects links m).saved.Recorded :=
  List.forall_mem_nil _

/-- Exactly when the receipts of created records identify them, events of the platform have their
records: then every call that tells of one confirms it, whichever commits fail, and where no commit
fails, all events of the platform have records all along, and no event gets two. -/
theorem reached_recorded (s : Settings) (w : Surroundings ω) (projects : List Project)
    (links : List Link) (m : ω) (calls : List Call) :
    let x := opening projects links m
    (x.Identifies s w calls → x.Confirmed s w calls) ∧
      (x.Commits s w calls →
        ((∀ n, (x.visits s w (calls.take n)).saved.Recorded) ↔ x.Identifies s w calls) ∧
        (x.Identifies s w calls → (x.creations s w calls).Nodup)) := by
  intro x
  have hs : x.saved.Sound := opening_sound projects links m
  have hr : x.saved.Recorded := opening_recorded projects links m
  refine ⟨confirmed_of_identifies hs hr, fun hc => ⟨recorded_iff_identifies hs hr hc, ?_⟩⟩
  exact fun hi => (creations_nodup hs hr hc hi).1

/-- The calls of the bench: an event is created, and then changed without any change. -/
def benchCalls : List Call :=
  [.createEvent 1 { name := some "Pens", kind := some .rfi } false "buyer",
   .updateEvent 1 "ocds-b5fd17-1" {} "buyer"]

theorem reached_recorded_bench :
    let x := opening [benchProject] [] []
    x.Identifies benchSettings bench benchCalls ∧ x.Commits benchSettings bench benchCalls ∧
      x.creations benchSettings bench benchCalls = [1] ∧
      x.Confirmed benchSettings bench benchCalls := by
  intro x
  have hi : x.Identifies benchSettings bench benchCalls := by decide +kernel
  have hc : x.Commits benchSettings bench benchCalls := by decide +kernel
  refine ⟨hi, hc, by decide +kernel, ?_⟩
  exact (reached_recorded benchSettings bench [benchProject] [] [] benchCalls).1 hi

/-- A scene in which records are created and never identified. -/
def namelessScene : Scene where
  users := [("buyer", some "user_1")]
  now := default
  replies := List.replicate 2 (.ofReceipt { code := .set 0, message := .set "OK" })

/-- Both calls succeed, the saved event has no record, and two records were created for it. -/
theorem nameless_unrecorded :
    let x := opening [benchProject] [] namelessScene
    x.Commits benchSettings Scene.surroundings benchCalls ∧
      ¬x.Confirmed benchSettings Scene.surroundings benchCalls ∧
      x.creations benchSettings Scene.surroundings benchCalls = [1, 1] := by
  intro x
  refine ⟨by decide +kernel, ?_, by decide +kernel⟩
  rintro ⟨hfirst, -⟩
  let told : EventSummary :=
    { id := "ocds-b5fd17-1", title := "Pens", kind := .rfi, status := .planning }
  let call : Call := .createEvent 1 { name := some "Pens", kind := some .rfi } false "buyer"
  have hok : (x.outcome benchSettings Scene.surroundings call).1 = .ok told := by decide +kernel
  have hnone : ∀ row ∈ (x.visit benchSettings Scene.surroundings call).saved.rows,
      row.record? = none := by decide +kernel
  rcases hfirst told told hok rfl rfl with ⟨row, hmem, -, hrecord⟩
  rw [hnone row hmem] at hrecord
  cases hrecord

end World
end Desk
end TenderDesk
