import TenderDesk.Desk.Rehearsal
import TenderDesk.Proofs.Desk.Agreement
import TenderDesk.Proofs.Desk.Course
import TenderDesk.Proofs.Sourcing.Export

/-!
# Showing — what the platform shows, and what a request for it comes to

* Each request to show something is sent once, and nothing else is asked (`fetchRecord_course`,
  `fetchFile_course`).
* `reads_once` tells all outcomes apart. A reply that does not show what was asked for is the
  platform's fault, but for few cases: status 404 says that a file is missing, and a list of records
  without a first item, JSON that is nested too deeply and a charset that is none of text escape as
  internal failures.
-/

namespace TenderDesk
namespace Desk

open Sourcing

variable {ω : Type} {w : Surroundings ω} {p : Platform} {r : Run ω}

/-! ## Courses -/

theorem fetchRecord_course (id : String) :
    fetchRecord p id w r =
      match urlOf p (Request.showRecord id).endpoint with
      | .ok _ => (Snapshot.ofReply id (w (.exchange (.showRecord id)) r.memory).1,
          r.asking w (.exchange (.showRecord id)))
      | .error failure => (.error failure, r) := by
  unfold fetchRecord exchangeJson Snapshot.ofReply
  rw [Action.bind_apply, Action.bind_apply, exchange_course]
  cases urlOf p (Request.showRecord id).endpoint with
  | error failure => rfl
  | ok url =>
      dsimp only
      cases (w (.exchange (.showRecord id)) r.memory).1.json (Request.showRecord id).endpoint with
      | error fault => rfl
      | ok j => exact ofExcept_apply _ _

theorem fetchFile_course (key : Document.Key) :
    fetchFile p key w r =
      match urlOf p (Request.showFile key).endpoint with
      | .ok _ => (fileOfReply key (w (.exchange (.showFile key)) r.memory).1,
          r.asking w (.exchange (.showFile key)))
      | .error failure => (.error failure, r) := by
  unfold fetchFile
  rw [Action.bind_apply, exchange_course]
  cases urlOf p (Request.showFile key).endpoint with
  | error failure => rfl
  | ok url => exact ofExcept_apply _ _

/-! ## Files -/

section

variable {key : Document.Key} {reply : Reply} {file : Document.File} {failure : Failure}

theorem fileOfReply_eq_ok_iff :
    fileOfReply key reply = .ok file ↔ ∃ contentType body,
      reply = .answered 200 contentType body ∧
        file = { name := key.name, contentType, data := body.octets } := by
  unfold fileOfReply
  constructor
  · intro h
    split at h
    · rename_i body contentType hcontent
      cases h
      exact ⟨contentType, body, Reply.content_eq_ok_iff.1 hcontent, rfl⟩
    · split at h <;> cases h
  · rintro ⟨contentType, body, rfl, rfl⟩
    rfl

theorem fileOfReply_eq_error (h : fileOfReply key reply = .error failure) :
    reply.IsNotFound ∧ failure = .documentMissing key.name key.file ∨
      (∃ detail, reply.IsForeign detail ∧ failure = .charsetRefused detail) ∨
        ¬reply.IsNotFound ∧ (∀ detail, ¬reply.IsForeign detail) ∧
          failure.category = .platform := by
  unfold fileOfReply at h
  split at h
  · cases h
  · rename_i failure' hcontent
    rcases Reply.content_eq_error hcontent with
      ⟨detail, hforeign, rfl⟩ | ⟨hread, fault, rfl, hcode⟩
    · cases h
      exact .inr (.inl ⟨detail, hforeign, rfl⟩)
    · split at h
      · rename_i hmissing
        cases h
        exact .inl ⟨hcode.1 (beq_iff_eq.1 hmissing), rfl⟩
      · rename_i hother
        cases h
        refine .inr (.inr ⟨fun hmissing => hother ?_, hread, rfl⟩)
        exact beq_iff_eq.2 (hcode.2 hmissing)

end

/-! ## Outcomes -/

/-- Where the addresses are known, records and files are asked for once, and whatever comes back is
told as one of few outcomes. What does not show what was asked for is the platform's fault, but for
replies that escape, for lists of records without a first item and for files that are missing. -/
theorem reads_once {url url' : String} (hrecords : urlOf p "exportRfx" = .ok url)
    (hfiles : urlOf p "getAttachment" = .ok url') (w : Surroundings ω) (r : Run ω) :
    (∀ id : String,
      let reply := (w (.exchange (.showRecord id)) r.memory).1
      let end_ := fetchRecord p id w r
      end_.2 = r.asking w (.exchange (.showRecord id)) ∧
        (∀ snapshot, end_.1 = .ok snapshot ↔ ∃ j, reply.Holds j ∧ Snapshot.Shows j snapshot) ∧
        ∀ failure, end_.1 = .error failure →
          (reply.Escapes failure ∨ ∃ j, reply.Holds j ∧ Snapshot.isGap j = true) ∧
              failure.category = .internal ∨
            (∀ failure, ¬reply.Escapes failure) ∧
              (∀ j, reply.Holds j → Snapshot.isGap j = false) ∧ failure.category = .platform) ∧
      ∀ key : Document.Key,
        let reply := (w (.exchange (.showFile key)) r.memory).1
        let end_ := fetchFile p key w r
        end_.2 = r.asking w (.exchange (.showFile key)) ∧
          (∀ file, end_.1 = .ok file ↔ ∃ contentType body,
            reply = .answered 200 contentType body ∧
              file = { name := key.name, contentType, data := body.octets }) ∧
          ∀ failure, end_.1 = .error failure →
            reply.IsNotFound ∧ failure = .documentMissing key.name key.file ∨
              (∃ detail, reply.IsForeign detail ∧ failure = .charsetRefused detail) ∨
                ¬reply.IsNotFound ∧ (∀ detail, ¬reply.IsForeign detail) ∧
                  failure.category = .platform := by
  constructor
  · intro id reply end_
    have hend : end_ = (Snapshot.ofReply id reply, r.asking w (.exchange (.showRecord id))) := by
      refine (fetchRecord_course id).trans ?_
      rw [show (Request.showRecord id).endpoint = "exportRfx" from rfl, hrecords]
    rw [hend]
    refine ⟨rfl, fun snapshot => ?_, fun failure hfailure => ?_⟩
    · exact Snapshot.ofReply_eq_ok_iff
    · exact Snapshot.category_of_ofReply hfailure
  · intro key reply end_
    have hend : end_ = (fileOfReply key reply, r.asking w (.exchange (.showFile key))) := by
      refine (fetchFile_course key).trans ?_
      rw [show (Request.showFile key).endpoint = "getAttachment" from rfl, hfiles]
    rw [hend]
    refine ⟨rfl, fun file => ?_, fun failure hfailure => ?_⟩
    · exact fileOfReply_eq_ok_iff
    · exact fileOfReply_eq_error hfailure

/-- A scene in which the platform gives one reply, and nothing else is known. -/
def replyScene (reply : Reply) : Scene where
  now := default
  replies := [reply]

/-- One reply shows a record of status 100, and the same octets make a file. -/
theorem reads_once_bench :
    let reply : Reply := .ofJson (.obj [("dataList",
      .arr [.obj [("rfxSetting", .obj [("statusCode", .int 100)])]])])
    let r : Run Scene := .start {} (replyScene reply)
    let shown : Snapshot := { head := .set { statusCode := .set 100 } }
    urlOf benchSettings.platform "exportRfx" = .ok "http://remote.test/export" ∧
      urlOf benchSettings.platform "getAttachment" = .ok "http://remote.test/attachment" ∧
      (∃ j, reply.Holds j ∧ Snapshot.Shows j shown) ∧
      ∃ contentType body, reply = .answered 200 contentType body ∧
        (fetchFile benchSettings.platform ⟨9, "a.pdf"⟩ Scene.surroundings r).1 =
          .ok { name := "a.pdf", contentType, data := body.octets } := by
  intro reply r shown
  have hrecords : urlOf benchSettings.platform "exportRfx" = .ok "http://remote.test/export" := by
    decide +kernel
  have hfiles : urlOf benchSettings.platform "getAttachment" =
      .ok "http://remote.test/attachment" := by
    decide +kernel
  have hshown : (fetchRecord benchSettings.platform "rfq_1" Scene.surroundings r).1 =
      .ok shown := by
    decide +kernel
  have honce := reads_once hrecords hfiles Scene.surroundings r
  have hrecord := (honce.1 "rfq_1").2.1 shown
  have hfile := (honce.2 ⟨9, "a.pdf"⟩).2.1
  refine ⟨hrecords, hfiles, hrecord.1 hshown, none, _, rfl, ?_⟩
  exact (hfile _).2 ⟨none, _, rfl, rfl⟩

/-- An object stands where the records should be listed: asking for the record fails, and not as the
platform's fault. -/
theorem gap_escapes :
    let reply : Reply := .ofJson (.obj [("dataList", .obj [("a", .int 1)])])
    let end_ := fetchRecord benchSettings.platform "rfq_1" Scene.surroundings
      (.start {} (replyScene reply))
    end_.1 = .error .recordListKeyed ∧ Failure.recordListKeyed.category ≠ .platform := by
  decide +kernel

end Desk
end TenderDesk
