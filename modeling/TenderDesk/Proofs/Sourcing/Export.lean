import TenderDesk.Json.Printer
import TenderDesk.Sourcing.Answer

/-!
# Export — which replies show a record, and how all others are treated

* `Reply.Holds reply j` says that a successful answer holds the value `j`. Of what else comes back
  nothing can be read, which either is the platform's fault (`Reply.Fails`) or is told as something
  internal (`Reply.Escapes`).
* A value shows a record exactly when it is an object whose list of records begins with something
  that can be read as one (`Snapshot.ofExport_eq_ok_iff`).
* All other values are the platform's fault as well, but for one gap: where the list should be, a
  number or an object that is not empty is taken for a list that has a first item
  (`Snapshot.category_of_ofExport`).
-/

namespace TenderDesk

/-- A value that counts as something, but has no first item. -/
def Json.isHeadless : Json → Bool
  | .bool b => b
  | .int i => i != 0
  | .real x => !x.isZero
  | .obj ms => !ms.isEmpty
  | _ => false

theorem Json.isHeadless_of_isEmpty {j : Json} (h : j.isEmpty = true) : j.isHeadless = false := by
  cases j <;> simp_all [isEmpty, isHeadless]

namespace Sourcing

/-! ## Bodies -/

namespace Payload

variable {body : Payload} {endpoint text : String} {j : Json} {failure : Failure}

theorem text_of_text (h : body.decoded = .text text) : body.text endpoint = .ok text := by
  simp [Payload.text, h]

theorem text_of_garbled {detail : String} (h : body.decoded = .garbled detail) :
    body.text endpoint = .error (.platform (.unreachable endpoint detail)) := by
  simp [Payload.text, h]

theorem text_of_foreign {detail : String} (h : body.decoded = .foreign detail) :
    body.text endpoint = .error (.charsetRefused detail) := by
  simp [Payload.text, h]

theorem failureOf_of_deep {fault : Json.Fault} (h : fault.isDepth = true) :
    failureOf endpoint text fault = .answerTooDeep (fault.message text) := by
  simp [failureOf, h]

theorem failureOf_of_shallow {fault : Json.Fault} (h : fault.isDepth = false) :
    failureOf endpoint text fault = .platform (.unreachable endpoint (fault.message text)) := by
  simp [failureOf, h]

theorem json_of_isBlank (h : body.isBlank = true) : body.json endpoint = .ok .null := by
  simp [json, h]

theorem json_of_text (hblank : body.isBlank = false) (htext : body.decoded = .text text) :
    body.json endpoint = (Json.parse body.room text).mapError (failureOf endpoint text) := by
  simp [json, hblank, text_of_text htext]

theorem json_of_text_error (hblank : body.isBlank = false)
    (htext : body.text endpoint = .error failure) : body.json endpoint = .error failure := by
  simp [json, hblank, htext]

end Payload

/-! ## Replies -/

namespace Reply

/-- A successful answer holds a value. -/
inductive Holds : Reply → Json → Prop
  | blank {contentType : Option String} {body : Payload} (hblank : body.isBlank = true) :
      Holds (.answered 200 contentType body) .null
  | parsed {contentType : Option String} {body : Payload} {text : String} {j : Json}
      (hblank : body.isBlank = false) (htext : body.decoded = .text text)
      (hj : Json.parse body.room text = .ok j) : Holds (.answered 200 contentType body) j

/-- Nothing can be read from a reply, which is the platform's fault, with a return code or none. -/
inductive Fails : Reply → Option Int → Prop
  | lapse {lapse : Lapse} {detail : String} : Fails (.failed lapse detail) none
  | status {status : Nat} {contentType : Option String} {body : Payload} {text : String}
      (hstatus : status ≠ 200) (htext : body.decoded = .text text) :
      Fails (.answered status contentType body) (some status)
  | garbledRefusal {status : Nat} {contentType : Option String} {body : Payload} {detail : String}
      (hstatus : status ≠ 200) (hgarbled : body.decoded = .garbled detail) :
      Fails (.answered status contentType body) none
  | garbled {contentType : Option String} {body : Payload} {detail : String}
      (hblank : body.isBlank = false) (hgarbled : body.decoded = .garbled detail) :
      Fails (.answered 200 contentType body) none
  | text {contentType : Option String} {body : Payload} {text : String} {fault : Json.Fault}
      (hblank : body.isBlank = false) (htext : body.decoded = .text text)
      (hparse : Json.parse body.room text = .error fault) (hdepth : fault.isDepth = false) :
      Fails (.answered 200 contentType body) none

/-- A refusal in a charset that is none of text. -/
def IsForeign (reply : Reply) (detail : String) : Prop :=
  ∃ status contentType body, reply = .answered status contentType body ∧ status ≠ 200 ∧
    body.decoded = .foreign detail

/-- Nothing can be read from a reply, and the failure is not the platform's fault: the charset is
none of text, or the answer is nested too deeply. -/
inductive Escapes : Reply → Failure → Prop
  | refusal {reply : Reply} {detail : String} (h : reply.IsForeign detail) :
      Escapes reply (.charsetRefused detail)
  | charset {contentType : Option String} {body : Payload} {detail : String}
      (hblank : body.isBlank = false) (hforeign : body.decoded = .foreign detail) :
      Escapes (.answered 200 contentType body) (.charsetRefused detail)
  | depth {contentType : Option String} {body : Payload} {text : String} {fault : Json.Fault}
      (hblank : body.isBlank = false) (htext : body.decoded = .text text)
      (hparse : Json.parse body.room text = .error fault) (hdepth : fault.isDepth = true) :
      Escapes (.answered 200 contentType body) (.answerTooDeep (fault.message text))

/-- An answer of status 404, with a text. -/
def IsNotFound (reply : Reply) : Prop :=
  ∃ contentType body text, reply = .answered 404 contentType body ∧ body.decoded = .text text

/-- The successful answer with a value and nothing else. -/
def ofJson (j : Json) : Reply :=
  .answered 200 none (.ofText (j.render .compact))

variable {reply : Reply} {endpoint : String} {failure : Failure}

theorem holds_or_fails_or_escapes (reply : Reply) :
    (∃ j, reply.Holds j) ∨ (∃ code, reply.Fails code) ∨ ∃ failure, reply.Escapes failure := by
  cases reply with
  | failed lapse detail => exact .inr (.inl ⟨none, .lapse⟩)
  | answered status contentType body =>
      -- A refusal is read as a text, and an answer as a value unless its body is blank.
      by_cases hstatus : status = 200
      · subst hstatus
        cases hblank : body.isBlank with
        | true => exact .inl ⟨.null, .blank hblank⟩
        | false =>
            cases hdecoded : body.decoded with
            | garbled detail => exact .inr (.inl ⟨none, .garbled hblank hdecoded⟩)
            | foreign detail => exact .inr (.inr ⟨_, .charset hblank hdecoded⟩)
            | text text =>
                cases hparse : Json.parse body.room text with
                | ok j => exact .inl ⟨j, .parsed hblank hdecoded hparse⟩
                | error fault =>
                    cases hdepth : fault.isDepth with
                    | true => exact .inr (.inr ⟨_, .depth hblank hdecoded hparse hdepth⟩)
                    | false => exact .inr (.inl ⟨none, .text hblank hdecoded hparse hdepth⟩)
      · cases hdecoded : body.decoded with
        | text text => exact .inr (.inl ⟨some status, .status hstatus hdecoded⟩)
        | garbled detail => exact .inr (.inl ⟨none, .garbledRefusal hstatus hdecoded⟩)
        | foreign detail => exact .inr (.inr ⟨_, .refusal ⟨_, _, _, rfl, hstatus, hdecoded⟩⟩)

/-! ## Contents of replies -/

theorem content_eq_ok_iff {body : Payload} {contentType : Option String} :
    reply.content endpoint = .ok (body, contentType) ↔ reply = .answered 200 contentType body := by
  constructor
  · intro h
    unfold content at h
    split at h
    · cases h
      rfl
    · split at h <;> cases h
    · cases h
  · rintro rfl
    rfl

theorem content_of_refusal {status : Nat} (hstatus : status ≠ 200) (contentType : Option String)
    (body : Payload) :
    (answered status contentType body).content endpoint = match body.text endpoint with
      | .ok text => .error (.platform (.refused endpoint text status))
      | .error failure => .error failure := by
  unfold content
  split
  · rename_i h
    cases h
    exact absurd rfl hstatus
  · rename_i h
    cases h
    rfl
  · rename_i h
    cases h

/-- A reply without content is a refusal in a foreign charset, or the platform's fault. Of these
faults, only a refusal that can be read has code 404. -/
theorem content_eq_error (h : reply.content endpoint = .error failure) :
    (∃ detail, reply.IsForeign detail ∧ failure = .charsetRefused detail) ∨
      (∀ detail, ¬reply.IsForeign detail) ∧ ∃ fault, failure = .platform fault ∧
        (fault.code = some 404 ↔ reply.IsNotFound) := by
  cases reply with
  | failed lapse detail =>
      cases h
      refine .inr ⟨?_, _, rfl, nofun, ?_⟩
      · rintro _ ⟨_, _, _, h, -⟩
        cases h
      · rintro ⟨_, _, _, h, -⟩
        cases h
  | answered status contentType body =>
      by_cases hstatus : status = 200
      · subst hstatus
        cases h
      rw [content_of_refusal hstatus] at h
      cases hdecoded : body.decoded with
      | text text =>
          rw [Payload.text_of_text hdecoded] at h
          cases h
          refine .inr ⟨?_, _, rfl, ?_, ?_⟩
          · rintro _ ⟨_, _, _, h, -, hforeign⟩
            cases h
            rw [hdecoded] at hforeign
            cases hforeign
          · intro hcode
            have h404 : status = 404 := Int.ofNat.inj (Option.some.inj hcode)
            exact ⟨contentType, body, text, by rw [h404], hdecoded⟩
          · rintro ⟨_, _, _, h, -⟩
            cases h
            rfl
      | garbled detail =>
          -- An answer that is no text is told like one that never came.
          rw [Payload.text_of_garbled hdecoded] at h
          cases h
          refine .inr ⟨?_, _, rfl, nofun, ?_⟩
          · rintro _ ⟨_, _, _, h, -, hforeign⟩
            cases h
            rw [hdecoded] at hforeign
            cases hforeign
          · rintro ⟨_, _, _, h, htext⟩
            cases h
            rw [hdecoded] at htext
            cases htext
      | foreign detail =>
          rw [Payload.text_of_foreign hdecoded] at h
          cases h
          exact .inl ⟨detail, ⟨_, _, _, rfl, hstatus, hdecoded⟩, rfl⟩

theorem IsForeign.content {detail : String} (h : reply.IsForeign detail) :
    reply.content endpoint = .error (.charsetRefused detail) := by
  obtain ⟨status, contentType, body, rfl, hstatus, hforeign⟩ := h
  rw [content_of_refusal hstatus, Payload.text_of_foreign hforeign]

/-! ## Values of replies -/

theorem Holds.json {j : Json} (h : reply.Holds j) : reply.json endpoint = .ok j := by
  cases h with
  | blank hblank => exact Payload.json_of_isBlank hblank
  | parsed hblank htext hj =>
      refine (Payload.json_of_text hblank htext).trans ?_
      rw [hj]
      rfl

theorem json_of_content_error (h : reply.content endpoint = .error failure) :
    reply.json endpoint = .error failure := by
  simp [Reply.json, h]

theorem Fails.json {code : Option Int} (h : reply.Fails code) (endpoint : String) :
    ∃ fault, reply.json endpoint = .error (.platform fault) ∧ fault.code = code := by
  cases h with
  | lapse => exact ⟨_, rfl, rfl⟩
  | @status status contentType body text hstatus htext =>
      refine ⟨.refused endpoint text status, json_of_content_error ?_, rfl⟩
      rw [content_of_refusal hstatus, Payload.text_of_text htext]
  | @garbledRefusal status contentType body detail hstatus hgarbled =>
      refine ⟨.unreachable endpoint detail, json_of_content_error ?_, rfl⟩
      rw [content_of_refusal hstatus, Payload.text_of_garbled hgarbled]
  | garbled hblank hgarbled =>
      exact ⟨_, Payload.json_of_text_error hblank (Payload.text_of_garbled hgarbled), rfl⟩
  | @text contentType body text fault hblank htext hparse hdepth =>
      refine ⟨.unreachable endpoint (fault.message text),
        (Payload.json_of_text hblank htext).trans ?_, rfl⟩
      rw [hparse]
      exact congrArg Except.error (Payload.failureOf_of_shallow hdepth)

theorem Escapes.json (h : reply.Escapes failure) : reply.json endpoint = .error failure := by
  cases h with
  | refusal h => exact json_of_content_error h.content
  | charset hblank hforeign =>
      exact Payload.json_of_text_error hblank (Payload.text_of_foreign hforeign)
  | depth hblank htext hparse hdepth =>
      refine (Payload.json_of_text hblank htext).trans ?_
      rw [hparse]
      exact congrArg Except.error (Payload.failureOf_of_deep hdepth)

theorem Escapes.category (h : reply.Escapes failure) : failure.category = .internal := by
  cases h <;> rfl

theorem json_eq_ok_iff {j : Json} : reply.json endpoint = .ok j ↔ reply.Holds j := by
  refine ⟨fun h => ?_, Holds.json⟩
  rcases reply.holds_or_fails_or_escapes with ⟨j', hholds⟩ | ⟨code, hfails⟩ | ⟨failure, hescapes⟩
  · rw [hholds.json] at h
    cases h
    exact hholds
  · obtain ⟨fault, hfault, -⟩ := hfails.json endpoint
    rw [hfault] at h
    cases h
  · rw [hescapes.json] at h
    cases h

/-- A reply without a value fails, or it escapes. -/
theorem json_eq_error (h : reply.json endpoint = .error failure) :
    (∃ fault, failure = .platform fault ∧ reply.Fails fault.code) ∨ reply.Escapes failure := by
  rcases reply.holds_or_fails_or_escapes with ⟨j, hholds⟩ | ⟨code, hfails⟩ | ⟨failure', hescapes⟩
  · rw [hholds.json] at h
    cases h
  · obtain ⟨fault, hfault, rfl⟩ := hfails.json endpoint
    rw [hfault] at h
    cases h
    exact .inl ⟨fault, rfl, hfails⟩
  · rw [hescapes.json] at h
    cases h
    exact .inr hescapes

theorem Holds.unique {j j' : Json} (h : reply.Holds j) (h' : reply.Holds j') : j = j' := by
  have hj : reply.json "" = .ok j := h.json
  have hj' : reply.json "" = .ok j' := h'.json
  rw [hj] at hj'
  cases hj'
  rfl

theorem Holds.not_escapes {j : Json} (h : reply.Holds j) : ¬reply.Escapes failure := by
  intro hescapes
  have hjson : reply.json "" = .error failure := hescapes.json
  rw [h.json] at hjson
  cases hjson

theorem Fails.not_escapes {code : Option Int} (h : reply.Fails code) :
    ¬reply.Escapes failure := by
  intro hescapes
  obtain ⟨fault, hfault, -⟩ := h.json ""
  rw [hescapes.json] at hfault
  cases hfault
  cases hescapes.category

end Reply

/-! ## Exports -/

namespace Snapshot

variable {id : String} {j : Json} {snapshot : Snapshot} {failure : Failure}

/-- A value lists records, and the first of them is the record. -/
def Shows (j : Json) (snapshot : Snapshot) : Prop :=
  ∃ item rest, j.get? "dataList" = some (.arr (item :: rest)) ∧ codec.read item = .ok snapshot

/-- Something without a first item stands where a value should list records. -/
def isGap (j : Json) : Bool :=
  (j.get? "dataList").any Json.isHeadless

/-- A text is no record. -/
theorem read_str (text : RawText) : codec.read (.str text) = Schema.Checked.problem .record :=
  Schema.Codec.record_read_of_not_obj fun _ h => by cases h

theorem ofItem_eq_ok_iff {item : Json} :
    ofItem item = .ok snapshot ↔ codec.read item = .ok snapshot := by
  unfold ofItem
  rcases codec.read item with faults | s
  · constructor <;> intro h <;> cases h
  · constructor <;> intro h <;> cases h <;> rfl

theorem category_of_ofItem {item : Json} (h : ofItem item = .error failure) :
    failure.category = .platform := by
  unfold ofItem at h
  cases hr : codec.read item with
  | ok s =>
      rw [hr] at h
      cases h
  | error faults =>
      rw [hr] at h
      cases h
      rfl

/-- A list of records has a first item only if it is a list, or a text that stands for one. -/
theorem firstItem_eq_ok {records item : Json} (h : firstItem id records = .ok item) :
    (∃ rest, records = .arr (item :: rest)) ∨
      ∃ text text', records = .str text ∧ item = .str text' := by
  unfold firstItem at h
  split at h
  · cases h
  · split at h
    · cases h
      exact .inl ⟨_, rfl⟩
    · cases h
      exact .inr ⟨_, _, rfl, rfl⟩
    · cases h
    · cases h

theorem firstItem_list (item : Json) (rest : List Json) :
    firstItem id (.arr (item :: rest)) = .ok item :=
  rfl

theorem category_of_firstItem {records : Json} (h : firstItem id records = .error failure) :
    failure.category = if records.isHeadless then .internal else .platform := by
  unfold firstItem at h
  cases hempty : records.isEmpty with
  | true =>
      -- What counts as nothing has no first item either, but that is the platform's fault.
      rw [hempty] at h
      cases h
      rw [Json.isHeadless_of_isEmpty hempty]
      rfl
  | false =>
      rw [hempty] at h
      cases records with
      | null => cases hempty
      | arr items =>
          cases items with
          | nil => cases hempty
          | cons item rest => cases h
      | str text => cases h
      | _ =>
          cases h
          simp_all [Json.isEmpty, Json.isHeadless, Failure.category]

theorem ofExport_eq_ok_iff : ofExport id j = .ok snapshot ↔ Shows j snapshot := by
  constructor
  · intro h
    unfold ofExport at h
    split at h
    · cases h
    · rename_i members
      split at h
      · rename_i item hfirst
        have hread : codec.read item = .ok snapshot := ofItem_eq_ok_iff.1 h
        rcases firstItem_eq_ok hfirst with ⟨rest, hrecords⟩ | ⟨-, text, -, rfl⟩
        · refine ⟨item, rest, ?_, hread⟩
          -- A list is not the null that stands for a missing member.
          show Json.find? "dataList" members = _
          cases hfound : Json.find? "dataList" members with
          | none =>
              rw [hfound] at hrecords
              cases hrecords
          | some records =>
              rw [hfound] at hrecords
              exact congrArg some hrecords
        · rw [read_str] at hread
          cases hread
      · cases h
    · cases h
  · rintro ⟨item, rest, hrecords, hread⟩
    cases j with
    | obj members =>
        have hfound : Json.find? "dataList" members = some (.arr (item :: rest)) := hrecords
        unfold ofExport
        simp only [hfound, Option.getD_some, firstItem_list]
        exact ofItem_eq_ok_iff.2 hread
    | _ => cases hrecords

theorem category_of_ofExport (h : ofExport id j = .error failure) :
    failure.category = if isGap j then .internal else .platform := by
  unfold ofExport at h
  split at h
  · cases h
    rfl
  · rename_i members
    have hgap : isGap (.obj members) = ((Json.find? "dataList" members).getD .null).isHeadless := by
      show (Json.find? "dataList" members).any Json.isHeadless = _
      cases Json.find? "dataList" members <;> rfl
    rw [hgap]
    split at h
    · rename_i item hfirst
      rw [category_of_ofItem h]
      rcases firstItem_eq_ok hfirst with ⟨rest, hrecords⟩ | ⟨text, -, hrecords, -⟩
      · rw [hrecords]
        rfl
      · rw [hrecords]
        rfl
    · rename_i hfirst
      cases h
      exact category_of_firstItem hfirst
  · rename_i hobj
    cases h
    cases j <;> first | rfl | exact absurd rfl (hobj _)

/-! ## Records in replies -/

/-- What a reply to a request for the record of an id tells. -/
def ofReply (id : String) (reply : Reply) : Except Failure Snapshot :=
  match reply.json (Request.showRecord id).endpoint with
  | .ok j => ofExport id j
  | .error failure => .error failure

theorem ofReply_eq_ok_iff {reply : Reply} :
    ofReply id reply = .ok snapshot ↔ ∃ j, reply.Holds j ∧ Shows j snapshot := by
  unfold ofReply
  cases hj : reply.json (Request.showRecord id).endpoint with
  | ok j =>
      have hholds : reply.Holds j := Reply.json_eq_ok_iff.1 hj
      constructor
      · intro h
        exact ⟨j, hholds, ofExport_eq_ok_iff.1 h⟩
      · rintro ⟨j', hholds', hshows⟩
        rw [hholds.unique hholds']
        exact ofExport_eq_ok_iff.2 hshows
  | error fault =>
      constructor
      · intro h
        cases h
      · rintro ⟨j', hholds', -⟩
        rw [Reply.json_eq_ok_iff.2 hholds'] at hj
        cases hj

/-- A reply that shows no record is the platform's fault, unless it escapes or holds a gap. -/
theorem category_of_ofReply {reply : Reply} (h : ofReply id reply = .error failure) :
    (reply.Escapes failure ∨ ∃ j, reply.Holds j ∧ isGap j = true) ∧
        failure.category = .internal ∨
      (∀ failure, ¬reply.Escapes failure) ∧ (∀ j, reply.Holds j → isGap j = false) ∧
        failure.category = .platform := by
  unfold ofReply at h
  cases hj : reply.json (Request.showRecord id).endpoint with
  | ok j =>
      have hholds : reply.Holds j := Reply.json_eq_ok_iff.1 hj
      rw [hj] at h
      have hcategory := category_of_ofExport h
      cases hgap : isGap j with
      | true =>
          rw [hgap] at hcategory
          exact .inl ⟨.inr ⟨j, hholds, hgap⟩, hcategory⟩
      | false =>
          rw [hgap] at hcategory
          refine .inr ⟨fun _ => hholds.not_escapes, fun j' hholds' => ?_, hcategory⟩
          rw [← hholds.unique hholds']
          exact hgap
  | error failure' =>
      rw [hj] at h
      cases h
      rcases Reply.json_eq_error hj with ⟨fault, rfl, hfails⟩ | hescapes
      · refine .inr ⟨fun _ => hfails.not_escapes, fun j hholds => ?_, rfl⟩
        rw [hholds.json] at hj
        cases hj
      · exact .inl ⟨.inl hescapes, hescapes.category⟩

end Snapshot
end Sourcing
end TenderDesk
