import TenderDesk.Proofs.Desk.Soundness
import TenderDesk.Proofs.Sourcing.Ledger

/-!
# Agreement — the table and the platform tell the same of every event

The table and the platform share no transaction. Still, on a platform that keeps its contract, and
with a store that takes every commit, they agree after every visit, whatever fails in between.

* `Hosts w ledger` says that the platform among the surroundings `w` keeps its contract; `ledger`
  reads its records off the memory of the surroundings.
* `Agrees saved cards` is the agreement of a store with a ledger, `Turn.agrees` carries it over a
  turn.
-/

namespace TenderDesk
namespace Desk

open Schema Sourcing

variable {ω : Type} {w : Surroundings ω} {ledger : ω → List Card} {m : ω}
variable {cards cards' : List Card} {ws : List Write}

/-! ## The platform -/

/-- A platform that keeps its contract: it answers a change as made only when it made it, it changes
nothing when it answers anything else, and no other question changes a record. -/
structure Hosts (w : Surroundings ω) (ledger : ω → List Card) : Prop where
  accepted : ∀ request m receipt, request.isWriting = true →
    (w (.exchange request) m).1.receipt? = some receipt →
      Accepts (ledger m) request receipt (ledger (w (.exchange request) m).2)
  refused : ∀ request m, (w (.exchange request) m).1.receipt? = none →
    ledger (w (.exchange request) m).2 = ledger m
  untouched : ∀ q m, q.IsHarmless → ledger (w q m).2 = ledger m

/-- The ledger after changes that were made one after the other. -/
inductive Follows : List Card → List Write → List Card → Prop
  | nil (cards : List Card) : Follows cards [] cards
  | cons {cards cards' cards'' : List Card} {write : Write} {ws : List Write}
      (first : Accepts cards write.1 write.2 cards') (rest : Follows cards' ws cards'') :
      Follows cards (write :: ws) cards''

theorem writeOf?_eq_some {q : Question} {write : Write} (h : w.writeOf? m q = some write) :
    q = .exchange write.1 ∧ write.1.isWriting = true ∧
      (w (.exchange write.1) m).1.receipt? = some write.2 := by
  unfold Surroundings.writeOf? at h
  split at h
  · rename_i request
    split at h
    · rename_i hwriting
      rcases Option.map_eq_some_iff.1 h with ⟨receipt, hreceipt, rfl⟩
      exact ⟨rfl, hwriting, hreceipt⟩
    · cases h
  · cases h

theorem Hosts.ledger_of_no_write (h : Hosts w ledger) {q : Question}
    (hq : w.writeOf? m q = none) : ledger (w q m).2 = ledger m := by
  cases q with
  | exchange request =>
      cases hwriting : request.isWriting with
      | false => exact h.untouched _ m hwriting
      | true =>
          refine h.refused request m ?_
          unfold Surroundings.writeOf? at hq
          simpa only [hwriting, if_true, Option.map_eq_none_iff] using hq
  | _ => exact h.untouched _ m trivial

theorem Hosts.follows (h : Hosts w ledger) (m : ω) (qs : List Question) :
    Follows (ledger m) (w.writes m qs) (ledger (w.after m qs)) := by
  induction qs generalizing m with
  | nil => exact .nil _
  | cons q qs ih =>
      have rest : Follows (ledger (w q m).2) (w.writes (w q m).2 qs)
          (ledger (w.after m (q :: qs))) := ih (w q m).2
      unfold Surroundings.writes
      rcases hq : w.writeOf? m q with _ | write
      · -- The question changed nothing.
        rw [h.ledger_of_no_write hq] at rest
        exact rest
      · obtain ⟨rfl, hwriting, hreceipt⟩ := writeOf?_eq_some hq
        exact .cons (h.accepted write.1 m write.2 hwriting hreceipt) rest

theorem Follows.eq_of_nil (h : Follows cards [] cards') : cards' = cards := by
  cases h
  rfl

theorem Follows.accepts {write : Write} (h : Follows cards [write] cards') :
    Accepts cards write.1 write.2 cards' := by
  cases h with
  | cons first rest => rwa [rest.eq_of_nil]

theorem Follows.eq_absorb {command : Command} {rfx : Rfx} {receipt : Receipt}
    (h : Follows cards [(.write ⟨command, rfx⟩, receipt)] cards')
    (hcommand : command ≠ .createFromTemplate) : cards' = absorb rfx cards := by
  cases h.accepts with
  | created => exact absurd rfl hcommand
  | merged => rfl

theorem Follows.created {rfx : Rfx} {receipt : Receipt}
    (h : Follows cards [(creation rfx, receipt)] cards') :
    ∃ id reference, receipt.id = .set id ∧ id ≠ "" ∧ receipt.reference = .set reference ∧
      under id cards = [] ∧ cards' = cards ++ [⟨id, some reference, rfx.title?⟩] := by
  cases h.accepts with
  | created _ _ id reference hid hne hreference hfresh =>
      exact ⟨id, reference, hid, hne, hreference, hfresh, rfl⟩
  | merged _ hcommand => exact absurd rfl hcommand

/-! ## Agreement -/

/-- An event of the platform has exactly one record, with its title and its reference code. -/
def Carded (cards : List Card) (row : Row) : Prop :=
  ∀ kind : EventKind, row.kind = kind.name → kind.owner = .platform →
    ∃ id, row.externalId = some id ∧ id ≠ "" ∧
      under id cards = [⟨id, row.reference, some row.name⟩]

structure Agrees (saved : Store) (cards : List Card) : Prop where
  carded : ∀ row ∈ saved.rows, Carded cards row
  apart : ∀ row ∈ saved.rows, ∀ row' ∈ saved.rows, ∀ id, row.externalId = some id →
    row'.externalId = some id → row = row'

theorem Carded.of_owner {row : Row} {kind : EventKind} (hkind : row.kind = kind.name)
    (howner : kind.owner ≠ .platform) : Carded cards row := by
  intro k hk hplatform
  have : k = kind := EventKind.eq_of_name hk hkind
  exact absurd (this ▸ hplatform) howner

/-- What agreement says of a row depends on few of its fields. -/
theorem Carded.congr {row row' : Row} (h : Carded cards row) (hkind : row'.kind = row.kind)
    (hexternal : row'.externalId = row.externalId) (hreference : row'.reference = row.reference)
    (hname : row'.name = row.name) : Carded cards row' := by
  unfold Carded
  rw [hkind, hexternal, hreference, hname]
  exact h

/-- A new record stands beside the others. -/
theorem Carded.concat {row : Row} {card : Card} (h : Carded cards row)
    (hfresh : under card.id cards = []) : Carded (cards ++ [card]) row := by
  intro kind hkind howner
  rcases h kind hkind howner with ⟨id, hexternal, hne, hunder⟩
  refine ⟨id, hexternal, hne, ?_⟩
  rw [under_concat_of_ne, hunder]
  -- A record under this id would stand in the ledger already.
  intro hid
  rw [hid, hunder] at hfresh
  cases hfresh

namespace Agrees

variable {saved : Store} {before row : Row}

/-- Only events of the platform have an external id, so an external id leads to a card. -/
theorem card (h : Agrees saved cards) (hs : saved.Sound) (hmem : row ∈ saved.rows) {id : String}
    (hid : row.externalId = some id) :
    id ≠ "" ∧ under id cards = [⟨id, row.reference, some row.name⟩] := by
  rcases (hs.rows row hmem).owner_of_record hid with ⟨kind, hkind, howner⟩
  rcases h.carded row hmem kind hkind howner with ⟨id', hid', hne, hunder⟩
  have : id' = id := Option.some.inj (hid'.symm.trans hid)
  subst this
  exact ⟨hne, hunder⟩

theorem replace (h : Agrees saved cards)
    (hothers : ∀ r ∈ saved.rows, r.id ≠ row.id → Carded cards' r) (hrow : Carded cards' row)
    (hapart : ∀ r ∈ saved.rows, r.id ≠ row.id → ∀ id, r.externalId = some id →
      row.externalId ≠ some id) : Agrees (saved.replace row) cards' where
  carded := by
    intro r hr
    rcases Store.mem_replace hr with rfl | ⟨hr, hne⟩
    · exact hrow
    · exact hothers r hr hne
  apart := by
    intro r hr r' hr' id hid hid'
    rcases Store.mem_replace hr with rfl | ⟨hold, hne⟩ <;>
      rcases Store.mem_replace hr' with rfl | ⟨hold', hne'⟩
    · rfl
    · exact absurd hid (hapart r' hold' hne' id hid')
    · exact absurd hid' (hapart r hold hne id hid)
    · exact h.apart r hold r' hold' id hid hid'

/-- A row that keeps its external id keeps apart from all others. -/
theorem apart_of_same (h : Agrees saved cards) (hmem : before ∈ saved.rows)
    (hid : row.id = before.id) (hexternal : row.externalId = before.externalId) :
    ∀ r ∈ saved.rows, r.id ≠ row.id → ∀ id, r.externalId = some id →
      row.externalId ≠ some id := by
  intro r hr hne id hr' hrow
  have : r = before := h.apart r hr before hmem id hr' (hexternal.symm.trans hrow)
  exact hne (this ▸ hid.symm)

theorem add (h : Agrees saved cards) (hothers : ∀ r ∈ saved.rows, Carded cards' r)
    (hrow : Carded cards' row) (hapart : ∀ r ∈ saved.rows, ∀ id, r.externalId = some id →
      row.externalId ≠ some id) : Agrees (saved.add row) cards' where
  carded := by
    intro r hr
    rcases Store.mem_add.1 hr with hr | rfl
    · exact hothers r hr
    · exact hrow
  apart := by
    intro r hr r' hr' id hid hid'
    rcases Store.mem_add.1 hr with hold | rfl <;> rcases Store.mem_add.1 hr' with hold' | rfl
    · exact h.apart r hold r' hold' id hid hid'
    · exact absurd hid' (hapart r hold id hid)
    · exact absurd hid (hapart r' hold' id hid')
    · rfl

/-- An id that the ledger does not have yet is the external id of no row. -/
theorem fresh (h : Agrees saved cards) (hs : saved.Sound) {id : String}
    (hfresh : under id cards = []) (hmem : row ∈ saved.rows) : row.externalId ≠ some id := by
  intro hid
  have := (h.card hs hmem hid).2
  rw [hfresh] at this
  cases this

/-- What only tells id and reference code of an event changes no card. -/
theorem absorb_eq (h : Agrees saved cards) (hmem : row ∈ saved.rows)
    {kind : EventKind} (hkind : row.kind = kind.name) (howner : kind.owner = .platform) {rfx : Rfx}
    (hrfx : rfx.head = .set (Head.key row.externalId row.reference)) :
    absorb rfx cards = cards := by
  rcases h.carded row hmem kind hkind howner with ⟨id, hid, -, hunder⟩
  rw [hid] at hrfx
  exact absorb_key hrfx hunder

end Agrees

/-! ## Turns -/

variable {s : Settings} {saved saved' : Store} {call : Call}

theorem IsRecordFor.title {name : String} {rfx : Rfx} (h : IsRecordFor name rfx) :
    rfx.title? = some name := by
  rcases h with ⟨project, template, user, company, companies, rfl⟩
  rfl

/-- The card of a new record is what its row says. -/
theorem Carded.of_created {row : Row} {rfx : Rfx} {receipt : Receipt} {id reference : String}
    (hrfx : IsRecordFor row.name rfx) (hid : receipt.id = .set id) (hne : id ≠ "")
    (hreference : receipt.reference = .set reference) (hfresh : under id cards = []) :
    Carded (cards ++ [⟨id, some reference, rfx.title?⟩]) (withReceipt row receipt) := by
  intro kind _ _
  refine ⟨id, ?_, hne, ?_⟩
  · simp only [withReceipt, hid, Slot.get?]
  · have hself : (⟨id, some reference, rfx.title?⟩ : Card).id = id := rfl
    rw [under_concat_self hself, hfresh, hrfx.title]
    simp only [withReceipt, hreference, Slot.get?, List.nil_append]

theorem Equipped.agrees {row row' : Row} {kind : EventKind} {principal : String}
    (h : Equipped row kind principal ws row') (hkind : row.kind = kind.name)
    (hexternal : row.externalId = none) (hs : saved.Sound) (ha : Agrees saved cards)
    (hf : Follows cards ws cards') :
    Agrees (saved.add { row' with id := saved.nextId }) cards' := by
  cases h with
  | assessed howner id organisations =>
      rw [hf.eq_of_nil]
      refine ha.add ha.carded ?_ ?_
      · have hlinked : (withSuppliers { row with assessment := some id } organisations true
            principal).kind = kind.name := by
          rw [withSuppliers_eq]
          exact hkind
        exact Carded.of_owner hlinked (by rw [howner]; decide)
      · rw [withSuppliers_eq]
        intro r _ id' _ hid
        rw [hexternal] at hid
        cases hid
  | recorded howner rfx receipt hrfx =>
      rcases hf.created with ⟨id, reference, hid, hne, hreference, hfresh, rfl⟩
      refine ha.add ?_ ?_ ?_
      · -- The other events keep their records beside the new one.
        exact fun r hr => (ha.carded r hr).concat hfresh
      · exact (Carded.of_created hrfx hid hne hreference hfresh).congr rfl rfl rfl rfl
      · intro r hr id' hr' hid'
        simp only [withReceipt, hid, Slot.get?, Option.some.injEq] at hid'
        subst hid'
        exact ha.fresh hs hfresh hr hr'
  | unowned howner assessment hnone =>
      rw [hf.eq_of_nil]
      refine ha.add ha.carded ?_ ?_
      · exact Carded.of_owner hkind (by rw [howner]; decide)
      · intro r _ id' _ hid
        rw [hexternal] at hid
        cases hid

theorem titleChange_head (before : Row) (name : String) :
    (titleChange before name).head =
      .set { Head.key before.externalId before.reference with title := .set name } :=
  rfl

/-- A new title reaches the record that the change names. -/
theorem Carded.retitled {before row : Row} {id : String} (hbefore : before.externalId = some id)
    (hne : id ≠ "") (hunder : under id cards = [⟨id, before.reference, some before.name⟩])
    (hexternal : row.externalId = some id) (hreference : row.reference = before.reference) :
    Carded (absorb (titleChange before row.name) cards) row := by
  intro kind _ _
  refine ⟨id, hexternal, hne, ?_⟩
  rw [under_absorb (titleChange_head before row.name), hunder]
  simp only [List.map_cons, List.map_nil, Head.key, hbefore, Slot.ofOption, Slot.get?, if_true,
    Card.merge, onto, hreference]
  -- A reference code that is sent along replaces itself, and none leaves it alone.
  cases before.reference with
  | none => rfl
  | some reference => rfl

/-- A new title reaches no record but the one that the change names. -/
theorem Carded.retitled_other {before row : Row} {id name : String} (h : Carded cards row)
    (hbefore : before.externalId = some id) (hother : row.externalId ≠ some id) :
    Carded (absorb (titleChange before name) cards) row := by
  intro kind hkind howner
  rcases h kind hkind howner with ⟨id', hid', hne', hunder'⟩
  have hdiff : id ≠ id' := by
    intro hsame
    exact hother (hsame ▸ hid')
  refine ⟨id', hid', hne', ?_⟩
  rw [under_absorb (titleChange_head before name), hunder']
  simp only [List.map_cons, List.map_nil, Head.key, hbefore, Slot.ofOption, Slot.get?,
    Option.some.injEq, hdiff, if_false]

/-- An edit of a row that agrees with the platform, and what is done to the platform for it, lead to
a row that agrees with it. -/
theorem Brought.agrees {before row row' : Row} {edit : EventEdit} {principal : String}
    (h : Brought before edit row ws row') (hrow : Revised before edit row)
    (hmem : before ∈ saved.rows) (hs : saved.Sound) (ha : Agrees saved cards)
    (hf : Follows cards ws cards') :
    Agrees (saved.replace { row' with updatedBy := principal }) cards' := by
  have hb : before.Sound := hs.rows before hmem
  have hid : row.id = before.id := (hrow.becomes hb).id
  have hexternal : row.externalId = before.externalId := hrow.externalId
  have hreference : row.reference = before.reference := by rw [hrow.rest]
  have hname : row.name = (newName edit).getD before.name := by rw [hrow.rest]
  cases h with
  | recorded kind hkind howner hnone rfx receipt hrfx =>
      rcases hf.created with ⟨id, reference, hreceipt, hne, href, hfresh, rfl⟩
      refine ha.replace ?_ ?_ ?_
      · exact fun r hr _ => (ha.carded r hr).concat hfresh
      · exact (Carded.of_created hrfx hreceipt hne href hfresh).congr rfl rfl rfl rfl
      · intro r hr _ id' hr' hid'
        simp only [withReceipt, hreceipt, Slot.get?, Option.some.injEq] at hid'
        subst hid'
        exact ha.fresh hs hfresh hr hr'
  | retitled hsome name hnew receipt =>
      have hcards := hf.eq_absorb (by decide)
      rcases Option.isSome_iff_exists.1 hsome with ⟨id, hrecord⟩
      have hrow' : row.externalId = some id := (Row.record?_eq_some_iff.1 hrecord).1
      have hbefore : before.externalId = some id := hexternal.symm.trans hrow'
      rcases ha.card hs hmem hbefore with ⟨hne, hunder⟩
      have htitle : row.name = name := by rw [hname, hnew, Option.getD_some]
      subst hcards htitle
      have hapart := ha.apart_of_same hmem hid hexternal
      refine ha.replace ?_ ?_ hapart
      · -- The change names the record of `before`, which is the record of no other row.
        intro r hr hother
        have hdiff : r.externalId ≠ some id := fun hr' => hapart r hr hother id hr' hrow'
        exact (ha.carded r hr).retitled_other hbefore hdiff
      · have hcarded := Carded.retitled hbefore hne hunder hrow' hreference
        exact hcarded.congr rfl rfl rfl rfl
  | left kind hkind hnone hsome =>
      rw [hf.eq_of_nil]
      refine ha.replace (fun r hr _ => ha.carded r hr) ?_ (ha.apart_of_same hmem hid hexternal)
      intro k hk howner
      have : k = kind := EventKind.eq_of_name hk (ofName_eq_ok_iff.1 hkind)
      subst this
      -- Neither the title nor the kind of the event has changed.
      cases hrecord : row.record? with
      | none => exact absurd howner (hnone hrecord)
      | some id =>
          have hrow' : row.externalId = some id := (Row.record?_eq_some_iff.1 hrecord).1
          have hkept : newName edit = none := hsome (by rw [hrecord]; rfl)
          rcases ha.card hs hmem (hexternal.symm.trans hrow') with ⟨hne, hunder⟩
          refine ⟨id, hrow', hne, ?_⟩
          rw [hunder, ← hreference]
          simp only [hname, hkept, Option.getD_none]

/-- Without an edit there is nothing to do for an event that agrees with the platform. -/
theorem Brought.agrees_of_no_edit {before row row' : Row} {edit : EventEdit}
    (h : Brought before edit row ws row') (hrow : Revised before edit row)
    (hmem : before ∈ saved.rows) (hedit : isEdit edit = false) (ha : Agrees saved cards)
    (hf : Follows cards ws cards') : Agrees saved cards' := by
  cases h with
  | recorded kind hkind howner hnone rfx receipt hrfx =>
      have hbefore : before.kind = kind.name :=
        (hrow.kind_of_no_edit hedit).symm.trans (ofName_eq_ok_iff.1 hkind)
      -- The event was of the platform before, so its record was not missing.
      rcases ha.carded before hmem kind hbefore howner with ⟨id, hid, hne, -⟩
      rw [Row.record?_eq_some_iff.2 ⟨hrow.externalId.trans hid, hne⟩] at hnone
      cases hnone
  | retitled hsome name hnew receipt =>
      unfold isEdit at hedit
      rw [hnew] at hedit
      cases hedit
  | left =>
      rw [hf.eq_of_nil]
      exact ha

theorem owner_of_documentRecord {row : Row} {record : String}
    (h : documentRecord row = .ok record) :
    ∃ kind : EventKind, row.kind = kind.name ∧ kind.owner = .platform := by
  unfold documentRecord at h
  split at h
  · rename_i kind hkind
    split at h
    · rename_i howner _
      exact ⟨kind, ofName_eq_ok_iff.1 hkind, howner⟩
    · cases h
  · cases h

theorem attachmentChange_head (row : Row) (fileName : String) (description : Option String)
    (audience : Document.Audience) :
    (attachmentChange row fileName description audience).head =
      .set (Head.key row.externalId row.reference) := by
  cases audience <;> rfl

theorem Turn.agrees (h : Turn s saved call ws saved') (hs : saved.Sound)
    (ha : Agrees saved cards) (hf : Follows cards ws cards') : Agrees saved' cards' := by
  -- An event of the table has no record, and selections say nothing to the platform.
  have reselected : ∀ {row row' : Row}, row ∈ saved.rows → keeper row = .ok .table →
      row'.id = row.id → row'.kind = row.kind → row'.externalId = row.externalId →
      Agrees (saved.replace row') cards := by
    intro row row' hmem hkeeper hid hkind hexternal
    rcases owner_of_keeper hkeeper with ⟨kind, hk, howner⟩
    refine ha.replace (fun r hr _ => ha.carded r hr) ?_ (ha.apart_of_same hmem hid hexternal)
    exact Carded.of_owner (hkind.trans hk) (by rw [howner]; decide)
  cases h with
  | still =>
      have hcards : cards' = cards := hf.eq_of_nil
      rw [hcards]
      exact ha
  | opened p hproject name hname hrow => exact hrow.agrees rfl rfl hs ha hf
  | edited hbefore hrow hrow' hedit => exact hrow'.agrees hrow hbefore.mem hs ha hf
  | unsaved hbefore hrow hrow' hedit => exact hrow'.agrees_of_no_edit hrow hbefore.mem hedit ha hf
  | selected hrow hkeeper =>
      have hcards : cards' = cards := hf.eq_of_nil
      rw [hcards, withSuppliers_eq]
      exact reselected hrow.mem hkeeper rfl rfl rfl
  | listed hrow hkeeper links hlinks receipt =>
      rcases owner_of_keeper hkeeper with ⟨kind, hkind, howner⟩
      -- A change of suppliers names the record and tells no title.
      have habsorb : cards' = absorb (supplierChange _ (links.map (·.company))) cards :=
        hf.eq_absorb (by split <;> decide)
      have hcards : absorb (supplierChange _ (links.map (·.company))) cards = cards :=
        ha.absorb_eq hrow.mem hkind howner rfl
      rw [habsorb, hcards]
      exact ha
  | deselected hrow hkeeper hmem =>
      have hcards : cards' = cards := hf.eq_of_nil
      rw [hcards]
      exact reselected hrow.mem hkeeper rfl rfl rfl
  | delisted hrow hkeeper companies receipt =>
      rcases owner_of_keeper hkeeper with ⟨kind, hkind, howner⟩
      have habsorb : cards' = absorb (supplierChange _ companies) cards :=
        hf.eq_absorb (by decide)
      have hcards : absorb (supplierChange _ companies) cards = cards :=
        ha.absorb_eq hrow.mem hkind howner rfl
      rw [habsorb, hcards]
      exact ha
  | uploaded hrow hrecord receipt =>
      rcases owner_of_documentRecord hrecord with ⟨kind, hkind, howner⟩
      cases hf.accepts
      rw [ha.absorb_eq hrow.mem hkind howner (attachmentChange_head _ _ _ _)]
      exact ha
  | published hrow hrecord user receipt =>
      cases hf.accepts
      exact ha

/-! ## Histories -/

namespace World

variable {x : World ω}

theorem visit_agrees (hw : Hosts w ledger) (hs : x.saved.Sound)
    (ha : Agrees x.saved (ledger x.memory)) (hc : ¬x.CommitFails s w call) :
    Agrees (x.visit s w call).saved (ledger (x.visit s w call).memory) := by
  rcases visit_cases s w x call with ⟨hturn, hmemory⟩ | ⟨hfails, -⟩
  · rw [hmemory]
    exact hturn.agrees hs ha (hw.follows x.memory _)
  · exact absurd hfails hc

theorem visits_agree (hw : Hosts w ledger) (hs : x.saved.Sound)
    (ha : Agrees x.saved (ledger x.memory)) {calls : List Call} (hc : x.Commits s w calls) :
    Agrees (x.visits s w calls).saved (ledger (x.visits s w calls).memory) := by
  induction calls generalizing x with
  | nil => exact ha
  | cons call calls ih =>
      exact ih (visit_sound hs call).1 (visit_agrees hw hs ha hc.1) hc.2

/-- From an empty table, on a platform that keeps its contract and with a store that takes every
commit: whatever is called and whatever fails, each event of the platform has exactly one record,
which has its title and its reference code, and no two events share one. -/
theorem reached_agrees (hw : Hosts w ledger) (projects : List Project) (links : List Link) {m : ω}
    {calls : List Call} (hc : (opening projects links m).Commits s w calls) :
    let x := (opening projects links m).visits s w calls
    Agrees x.saved (ledger x.memory) := by
  refine visits_agree hw (opening_sound projects links m) ?_ hc
  exact ⟨List.forall_mem_nil _, List.forall_mem_nil _⟩

end World

/-! ## A platform with room for two records -/

/-- The receipt of a record with an id and a reference code. -/
def benchReceipt (entry : String × String) : Receipt where
  code := .set 0
  message := .set "OK"
  id := .set entry.1
  reference := .set entry.2

/-- The ids that the bench has, with their reference codes. -/
def benchEntries : List (String × String) :=
  [("rfq_1", "itt_1"), ("rfq_2", "itt_2")]

/-- The first id that no record has, with its reference code. -/
def benchEntry? (cards : List Card) : Option (String × String) :=
  benchEntries.find? fun entry => (under entry.1 cards).isEmpty

/-- The receipt of changes that are not told apart. -/
def benchDone : Receipt :=
  benchReceipt ("rfq_1", "itt_1")

/-- What the bench does about an order to create a record. -/
def benchCreate (rfx : Rfx) (cards : List Card) : Reply × List Card :=
  match benchEntry? cards with
  | some entry =>
      (.ofReceipt (benchReceipt entry), cards ++ [⟨entry.1, some entry.2, rfx.title?⟩])
  | none => (.failed .connection "no room", cards)

/-- Surroundings that remember a ledger with room for two records. Records cannot be shown. -/
def bench : Surroundings (List Card)
  | .exchange (.write ⟨.createFromTemplate, rfx⟩), cards => benchCreate rfx cards
  | .exchange (.write change), cards => (.ofReceipt benchDone, absorb change.rfx cards)
  | .exchange (.upload _ _ change), cards => (.ofReceipt benchDone, absorb change.rfx cards)
  | .exchange (.publish _), cards => (.ofReceipt benchDone, cards)
  | .exchange _, cards => (.failed .timeout "", cards)
  | .buyerUser _, cards => (.ok (some "user_1"), cards)
  | .buyerCompany _, cards => (.ok none, cards)
  | .lotSuppliers _ _, cards => (.ok [], cards)
  | .newAssessment _ _ _ _, cards => (.ok 1, cards)
  | .assessment id _, cards => (.ok ⟨id, "Planning"⟩, cards)
  | .criteria _ _, cards => (.ok (.arr []), cards)
  | .lookup, cards => (true, cards)
  | .commit, cards => (none, cards)
  | .clock, cards => (default, cards)
  | .pause _, cards => ((), cards)

def benchSettings : Settings where
  platform := {
    baseUrl := "http://remote.test"
    endpoints := [("createRfx", "/create"), ("publishRfx", "/publish"), ("exportRfx", "/export"),
      ("getAttachment", "/attachment")]
    creation := [("templateId", "rfq_0"), ("defaultTitleFormat", "%s")] }
  statuses := []
  documents := { extensions := [], maxSize := 0, maxTotal := 0 }

/-- The settings of the bench, with a name for each status that the platform may show. -/
def shownSettings : Settings :=
  { benchSettings with statuses := Settings.defaultStatuses }

def benchProject : Project where
  id := 1
  name := "Office Supplies"
  framework := "RM6170"
  lot := "2"

theorem benchReceipt_sent : ∀ entry ∈ benchEntries,
    (Reply.ofReceipt (benchReceipt entry)).receipt? = some (benchReceipt entry) := by
  decide +kernel

theorem benchDone_sent : (Reply.ofReceipt benchDone).receipt? = some benchDone :=
  benchReceipt_sent _ List.mem_cons_self

theorem benchEntry?_eq_some {cards : List Card} {entry : String × String}
    (h : benchEntry? cards = some entry) :
    entry ∈ benchEntries ∧ entry.1 ≠ "" ∧ under entry.1 cards = [] := by
  have named : ∀ entry ∈ benchEntries, entry.1 ≠ "" := by decide
  have hmem : entry ∈ benchEntries := List.mem_of_find?_eq_some h
  have hfree := List.find?_some (p := fun e : String × String => (under e.1 cards).isEmpty) h
  exact ⟨hmem, named entry hmem, List.isEmpty_iff.1 hfree⟩

theorem bench_creation (rfx : Rfx) (cards : List Card) :
    (∃ entry, benchEntry? cards = some entry ∧
      bench (.exchange (creation rfx)) cards =
        (.ofReceipt (benchReceipt entry), cards ++ [⟨entry.1, some entry.2, rfx.title?⟩])) ∨
      bench (.exchange (creation rfx)) cards = (.failed .connection "no room", cards) := by
  show (∃ entry, benchEntry? cards = some entry ∧ benchCreate rfx cards = _) ∨
    benchCreate rfx cards = _
  unfold benchCreate
  cases benchEntry? cards with
  | some entry => exact .inl ⟨entry, rfl, rfl⟩
  | none => exact .inr rfl

theorem bench_hosts : Hosts bench id where
  accepted := by
    intro request cards receipt hwriting hreceipt
    cases request with
    | write change =>
        rcases change with ⟨command, rfx⟩
        cases command with
        | createFromTemplate =>
            rcases bench_creation rfx cards with ⟨entry, hentry, hbench⟩ | hbench
            · rcases benchEntry?_eq_some hentry with ⟨hmem, hne, hfree⟩
              rw [hbench] at hreceipt ⊢
              have hsame : benchReceipt entry = receipt :=
                Option.some.inj ((benchReceipt_sent entry hmem).symm.trans hreceipt)
              rw [← hsame]
              exact .created rfx _ entry.1 entry.2 rfl hne rfl hfree
            · -- A failed exchange carries no receipt.
              rw [hbench] at hreceipt
              cases hreceipt
        | createUpdate => exact .merged ⟨.createUpdate, rfx⟩ (by simp) receipt
        | updateReset => exact .merged ⟨.updateReset, rfx⟩ (by simp) receipt
    | upload fileName data change => exact .uploaded fileName data change receipt
    | publish order => exact .published order receipt
    | showRecord => cases hwriting
    | showFile => cases hwriting
  refused := by
    intro request cards hnone
    -- Whatever the bench answers with a receipt is not refused.
    have done : ∀ {P : Prop}, (Reply.ofReceipt benchDone).receipt? = none → P := by
      intro P h
      rw [benchDone_sent] at h
      cases h
    cases request with
    | write change =>
        rcases change with ⟨command, rfx⟩
        cases command with
        | createFromTemplate =>
            rcases bench_creation rfx cards with ⟨entry, hentry, hbench⟩ | hbench
            · rw [hbench, benchReceipt_sent entry (benchEntry?_eq_some hentry).1] at hnone
              cases hnone
            · rw [hbench]
        | createUpdate => exact done hnone
        | updateReset => exact done hnone
    | upload => exact done hnone
    | publish => exact done hnone
    | showRecord => rfl
    | showFile => rfl
  untouched := by
    intro q cards hq
    cases q with
    | exchange request => cases request <;> first | rfl | cases hq
    | _ => rfl

namespace World

/-- Two events are created and the first is renamed; the last call fails in the end, when the status
is to be read. -/
theorem reached_agrees_bench :
    let calls : List Call := [
      .createEvent 1 { name := some "Pens", kind := some .rfi } false "buyer",
      .createEvent 1 { name := some "Ink", kind := some .rfi } false "buyer",
      .updateEvent 1 "ocds-b5fd17-1" { name := some "Paper" } "buyer"]
    let x := (opening [benchProject] [] []).visits benchSettings bench calls
    Hosts bench id ∧ (opening [benchProject] [] []).Commits benchSettings bench calls ∧
      x.memory = [⟨"rfq_1", some "itt_1", some "Paper"⟩, ⟨"rfq_2", some "itt_2", some "Ink"⟩] ∧
      Agrees x.saved x.memory := by
  intro calls x
  have hrun : (opening [benchProject] [] []).Commits benchSettings bench calls ∧
      x.memory = [⟨"rfq_1", some "itt_1", some "Paper"⟩, ⟨"rfq_2", some "itt_2", some "Ink"⟩] := by
    decide +kernel
  exact ⟨bench_hosts, hrun.1, hrun.2, reached_agrees bench_hosts [benchProject] [] hrun.1⟩

end World
end Desk
end TenderDesk
