import TenderDesk.Proofs.Desk.Uploading

/-!
# Namesakes — which of the documents of one name an upload tells of

The platform does not say what became of a file, so the desk lists the documents again and tells of
the first one of the name.

* `Uploading.IsNew`: a document has the name and the audience of an upload, and was not listed
  before it.
* `Uploading.ReportsNew`: an upload tells of such a document, or says that it is lost.
* `upload_reports_iff`: it does so exactly when the documents can be listed again and the first one
  of the name is a new one, and documents of the buyer come first.
* `namesake_reported`: an older document of the buyer is told of in the place of the one that was
  uploaded for suppliers.
-/

namespace TenderDesk
namespace Desk

open Schema Sourcing Document

namespace Uploading

variable {ω : Type} {c : Uploading ω} {record : String} {before after : Snapshot} {d : Summary}
  {failure : Failure}

/-- The platform took the file, and showed the record before and after. -/
structure Accepted (c : Uploading ω) (record : String) (before after : Snapshot) : Prop
    extends Ready c record before where
  addressed : c.Addressed
  granted : ∃ receipt, c.answer record = .ok receipt
  listed : c.again record = .ok after

/-- A document of the name and the audience of the upload that is listed after it only. -/
structure IsNew (c : Uploading ω) (before after : Snapshot) (d : Summary) : Prop where
  listed : d ∈ Summary.ofSnapshot after
  named : d.name = c.upload.fileName
  audience : d.audience = c.upload.audience
  unlisted : d ∉ Summary.ofSnapshot before

/-- The upload tells of a document that it added, and where it added none it says that the file is
lost. -/
def ReportsNew (c : Uploading ω) (before after : Snapshot) : Prop :=
  (∃ d, c.IsNew before after d ∧ c.visit.1 = .ok d) ∨
    (∀ d, ¬c.IsNew before after d) ∧ c.visit.1 = .error .uploadLost

/-- No document of the name is listed before this one. -/
structure IsFirst (c : Uploading ω) (after : Snapshot) (d : Summary) : Prop where
  named : d.name = c.upload.fileName
  split : ∃ others rest, Summary.ofSnapshot after = others ++ d :: rest ∧
    ∀ e ∈ others, e.name ≠ c.upload.fileName

/-! ## The first document of a name -/

theorem isFirst_iff :
    (Summary.ofSnapshot after).find? (fun d => d.name == c.upload.fileName) = some d ↔
      c.IsFirst after d := by
  rw [List.find?_eq_some_iff_append]
  constructor
  · rintro ⟨hnamed, others, rest, hsplit, hothers⟩
    exact ⟨by simpa using hnamed, others, rest, hsplit, by simpa using hothers⟩
  · rintro ⟨hnamed, others, rest, hsplit, hothers⟩
    exact ⟨by simpa using hnamed, others, rest, hsplit, by simpa using hothers⟩

theorem IsFirst.unique {e : Summary} (h : c.IsFirst after d) (h' : c.IsFirst after e) : d = e :=
  Option.some.inj ((isFirst_iff.2 h).symm.trans (isFirst_iff.2 h'))

theorem IsFirst.mem (h : c.IsFirst after d) : d ∈ Summary.ofSnapshot after := by
  rcases h.split with ⟨others, rest, hsplit, -⟩
  rw [hsplit]
  exact List.mem_append_right _ List.mem_cons_self

theorem exists_isFirst (hd : d ∈ Summary.ofSnapshot after) (hname : d.name = c.upload.fileName) :
    ∃ e, c.IsFirst after e := by
  have hsome : ((Summary.ofSnapshot after).find?
      fun d => d.name == c.upload.fileName).isSome := by
    rw [List.find?_isSome]
    exact ⟨d, hd, by simpa using hname⟩
  rcases Option.isSome_iff_exists.1 hsome with ⟨e, he⟩
  exact ⟨e, isFirst_iff.1 he⟩

/-- The documents of the buyer stand before those of suppliers. -/
theorem IsFirst.buyer {a : Attachment} (h : c.IsFirst after d) (ha : a ∈ after.buyerItems)
    (hname : (Summary.keyOf a).name = c.upload.fileName) : d.audience = .buyer := by
  let buyers := after.buyerItems.map (Summary.ofAttachment .buyer)
  have hsome : (buyers.find? fun d => d.name == c.upload.fileName).isSome := by
    rw [List.find?_isSome]
    exact ⟨_, List.mem_map_of_mem ha, beq_iff_eq.2 hname⟩
  rcases Option.isSome_iff_exists.1 hsome with ⟨e, he⟩
  -- What is found among the buyer's documents is found in the whole list.
  have hfirst : c.IsFirst after e := by
    apply isFirst_iff.1
    rw [Summary.ofSnapshot, List.find?_append, he]
    rfl
  rcases List.mem_map.1 (List.mem_of_find?_eq_some he) with ⟨b, -, hb⟩
  rw [h.unique hfirst, ← hb]
  rfl

/-! ## What is told -/

/-- What is told of an accepted upload is looked for in the list that is made after it. -/
theorem visit_of_listing (h : c.Accepted record before after) :
    c.visit.1 = (Summary.listed after).bind fun documents =>
      match documents.find? fun d => d.name == c.upload.fileName with
      | some d => .ok d
      | none => .error .uploadLost := by
  rcases h.granted with ⟨receipt, hreceipt⟩
  rw [visit_of_accepted h.toReady h.addressed hreceipt, h.listed]
  rfl

theorem visit_of_unlisted (h : c.Accepted record before after)
    (hunlisted : Summary.listed after = .error failure) : c.visit.1 = .error failure := by
  rw [visit_of_listing h, hunlisted]
  rfl

theorem visit_of_first (h : c.Accepted record before after) (hnamed : Named after)
    (hd : c.IsFirst after d) : c.visit.1 = .ok d := by
  rw [visit_of_listing h, listed_of_named hnamed]
  simp only [Except.bind, isFirst_iff.2 hd]

theorem visit_of_absent (h : c.Accepted record before after) (hnamed : Named after)
    (hnone : ∀ d ∈ Summary.ofSnapshot after, d.name ≠ c.upload.fileName) :
    c.visit.1 = .error .uploadLost := by
  have hfind : (Summary.ofSnapshot after).find? (fun d => d.name == c.upload.fileName) = none := by
    simpa [List.find?_eq_none] using hnone
  rw [visit_of_listing h, listed_of_named hnamed]
  simp only [Except.bind, hfind]

/-- The ends of an accepted upload: the documents cannot be listed again, or there is a first one of
the name, which is told of, or the file is lost. -/
inductive Told (c : Uploading ω) (after : Snapshot) : Except Failure Summary → Prop
  | unlisted {message : String} (h : Summary.listed after = .error (.nameRefused message)) :
      Told c after (.error (.nameRefused message))
  | first {d : Summary} (hnamed : Named after) (h : c.IsFirst after d) : Told c after (.ok d)
  | lost (hnamed : Named after)
      (h : ∀ d ∈ Summary.ofSnapshot after, d.name ≠ c.upload.fileName) :
      Told c after (.error .uploadLost)

theorem told (h : c.Accepted record before after) : c.Told after c.visit.1 := by
  by_cases hnamed : Named after
  case neg =>
    obtain ⟨message, hunlisted⟩ := listed_of_unnamed hnamed
    rw [visit_of_unlisted h hunlisted]
    exact .unlisted hunlisted
  by_cases hpresent : ∃ d ∈ Summary.ofSnapshot after, d.name = c.upload.fileName
  · rcases hpresent with ⟨d, hd, hname⟩
    rcases exists_isFirst hd hname with ⟨e, he⟩
    rw [visit_of_first h hnamed he]
    exact .first hnamed he
  · have hnone : ∀ d ∈ Summary.ofSnapshot after, d.name ≠ c.upload.fileName :=
      fun d hd hname => hpresent ⟨d, hd, hname⟩
    rw [visit_of_absent h hnamed hnone]
    exact .lost hnamed hnone

theorem visit_eq_ok_iff (h : c.Accepted record before after) :
    c.visit.1 = .ok d ↔ Named after ∧ c.IsFirst after d := by
  constructor
  · intro htold
    have hcases := told h
    rw [htold] at hcases
    cases hcases with
    | first hnamed hd => exact ⟨hnamed, hd⟩
  · rintro ⟨hnamed, hd⟩
    exact visit_of_first h hnamed hd

theorem visit_eq_error_iff (h : c.Accepted record before after) :
    c.visit.1 = .error failure ↔ Summary.listed after = .error failure ∨
      Named after ∧ failure = .uploadLost ∧
        ∀ d ∈ Summary.ofSnapshot after, d.name ≠ c.upload.fileName := by
  constructor
  · intro hfailed
    have hcases := told h
    rw [hfailed] at hcases
    cases hcases with
    | unlisted hunlisted => exact .inl hunlisted
    | lost hnamed hnone => exact .inr ⟨hnamed, rfl, hnone⟩
  · rintro (hunlisted | ⟨hnamed, rfl, hnone⟩)
    · exact visit_of_unlisted h hunlisted
    · exact visit_of_absent h hnamed hnone

theorem reportsNew_iff (h : c.Accepted record before after) :
    c.ReportsNew before after ↔
      Named after ∧ ∀ d, c.IsFirst after d → c.IsNew before after d := by
  constructor
  · rintro (⟨e, he, htold⟩ | ⟨-, hlost⟩)
    · obtain ⟨hnamed, hfirst⟩ := (visit_eq_ok_iff h).1 htold
      exact ⟨hnamed, fun d hd => hfirst.unique hd ▸ he⟩
    · rcases (visit_eq_error_iff h).1 hlost with hunlisted | ⟨hnamed, -, hnone⟩
      · -- Names that cannot be listed make another failure.
        have hcases := told h
        rw [hlost] at hcases
        cases hcases with
        | lost hnamed hnone =>
            rw [listed_of_named hnamed] at hunlisted
            cases hunlisted
      · exact ⟨hnamed, fun d hd => absurd hd.named (hnone d hd.mem)⟩
  · rintro ⟨hnamed, hall⟩
    have hcases := told h
    generalize hend : c.visit.1 = result at hcases
    cases hcases with
    | unlisted hunlisted =>
        rw [listed_of_named hnamed] at hunlisted
        cases hunlisted
    | first _ hd => exact .inl ⟨_, hall _ hd, hend⟩
    | lost _ hnone => exact .inr ⟨fun d hd => hnone d hd.listed hd.named, hend⟩

/-- After an accepted upload the first document of its name is told of, and the file is lost exactly
where no document has the name, if the documents can be listed again. So a new document of the
audience is told of, or that there is none, exactly when they can be listed and the first document
of the name is a new one of the audience. Where the buyer has a document of the name, an upload for
suppliers never tells of what it added. -/
theorem upload_reports_iff {ω : Type} {c : Uploading ω} {record : String} {before after : Snapshot}
    (h : c.Accepted record before after) :
    (∀ d, c.visit.1 = .ok d ↔ Named after ∧ c.IsFirst after d) ∧
      (∀ failure, c.visit.1 = .error failure ↔ Summary.listed after = .error failure ∨
        Named after ∧ failure = .uploadLost ∧
          ∀ d ∈ Summary.ofSnapshot after, d.name ≠ c.upload.fileName) ∧
      (c.ReportsNew before after ↔
        Named after ∧ ∀ d, c.IsFirst after d → c.IsNew before after d) ∧
      ((∃ a ∈ after.buyerItems, (Summary.keyOf a).name = c.upload.fileName) →
        c.upload.audience = .supplier → ¬c.ReportsNew before after) := by
  refine ⟨fun d => visit_eq_ok_iff h, fun failure => visit_eq_error_iff h, reportsNew_iff h, ?_⟩
  rintro ⟨a, ha, hname⟩ haudience hreports
  have hlisted : Summary.ofAttachment .buyer a ∈ Summary.ofSnapshot after :=
    List.mem_append_left _ (List.mem_map_of_mem ha)
  rcases exists_isFirst (c := c) hlisted hname with ⟨d, hd⟩
  -- The documents of the buyer are listed first, so the first one of the name is among them.
  have hbuyer : d.audience = .buyer := hd.buyer ha hname
  have hsupplier : d.audience = .supplier :=
    (((reportsNew_iff h).1 hreports).2 d hd).audience.trans haudience
  rw [hbuyer] at hsupplier
  cases hsupplier

end Uploading

/-! ## Uploads for suppliers -/

/-- An export of a record with the attachments of some audiences. -/
def exportFor (lists : List (Audience × List Key)) : Reply :=
  .ofJson (.obj [("dataList", .arr [.obj (lists.map fun l =>
    (listLabel l.1, .obj [("attachment", .arr (l.2.map fun key =>
      .obj [("fileId", .int key.file), ("fileName", .str key.name)]))]))])])

/-- What such an export lists for an audience. -/
def listFor (keys : List Key) : Slot AttachmentList :=
  .set { attachments := .set (keys.map fun key =>
    { file := .set key.file, name := .set key.name }) }

/-- An upload for suppliers, and what the platform lists before and after it. -/
def filing (fileName : String) (earlier later : List (Audience × List Key)) : Uploading Scene where
  settings :=
    { benchSettings with documents := { extensions := ["txt"], maxSize := 9, maxTotal := 9 } }
  surroundings := Scene.surroundings
  run := .start {}
    { now := default
      replies := [exportFor earlier, .ofReceipt benchDone, exportFor later] }
  row :=
    { id := 1, project := 1, name := "Pens", kind := "RFI", externalId := some "rfq_1"
      naming := benchSettings.naming, createdBy := "", updatedBy := "" }
  upload := { fileName, data := [104, 105], audience := .supplier }

theorem filing_accepted {fileName : String} {earlier later : List (Audience × List Key)}
    {before after : Snapshot} (hextension : extension fileName = "txt")
    (hearlier : Snapshot.ofReply "rfq_1" (exportFor earlier) = .ok before)
    (hroom : Uploading.total before ≤ 7) (hnamed : Named before)
    (hlater : Snapshot.ofReply "rfq_1" (exportFor later) = .ok after) :
    (filing fileName earlier later).Accepted "rfq_1" before after where
  platform := ⟨.rfi, rfl, rfl⟩
  external := rfl
  nonempty := by decide
  extension := by simp [filing, hextension]
  small := show (2 : Int) ≤ 9 by decide
  found := by
    refine ⟨"http://remote.test/export", ?_⟩
    show urlOf benchSettings.platform "exportRfx" = .ok "http://remote.test/export"
    decide +kernel
  shown := hearlier
  room := show Uploading.total before + 2 ≤ 9 by omega
  named := hnamed
  addressed := by
    refine ⟨"http://remote.test/create", ?_⟩
    show urlOf benchSettings.platform "createRfx" = .ok "http://remote.test/create"
    decide +kernel
  granted := by
    refine ⟨benchDone, ?_⟩
    show (Reply.ofReceipt benchDone).told (Receipt.ofLooseAnswer "document upload") "createRfx" =
      .ok benchDone
    decide +kernel
  listed := hlater

/-- Where nothing else has its name, the document that was added is told of. -/
theorem upload_reports_iff_filing :
    let new : Key := ⟨2, "b.txt"⟩
    let c := filing new.name [] [(.supplier, [new])]
    let after : Snapshot := { sellerAttachments := listFor [new] }
    c.Accepted "rfq_1" {} after ∧ c.ReportsNew {} after ∧
      c.visit.1 = .ok { id := new.id, name := new.name, audience := .supplier } := by
  intro new c after
  have accepted : c.Accepted "rfq_1" {} after :=
    filing_accepted (by decide +kernel) (by decide +kernel) (by decide) (by decide +kernel)
      (by decide +kernel)
  have hnamed : Named after := by decide +kernel
  rcases Uploading.upload_reports_iff accepted with ⟨htold, -, hreports, -⟩
  let d : Summary := { id := new.id, name := new.name, audience := .supplier }
  have hfirst : c.IsFirst after d := ⟨rfl, [], [], rfl, by simp⟩
  refine ⟨accepted, hreports.2 ⟨hnamed, fun e he => ?_⟩, (htold d).2 ⟨hnamed, hfirst⟩⟩
  rw [he.unique hfirst]
  exact ⟨List.mem_singleton.2 rfl, rfl, rfl, List.not_mem_nil⟩

/-- The buyer has a document of the name already. What was uploaded for suppliers is listed as a new
document of theirs, but it is the older document of the buyer that is told of. -/
theorem namesake_reported :
    let old : Key := ⟨1, "a.txt"⟩
    let new : Key := ⟨2, "a.txt"⟩
    let c := filing new.name [(.buyer, [old])] [(.buyer, [old]), (.supplier, [new])]
    let before : Snapshot := { buyerAttachments := listFor [old] }
    let after : Snapshot := { before with sellerAttachments := listFor [new] }
    c.Accepted "rfq_1" before after ∧
      c.IsNew before after { id := new.id, name := new.name, audience := .supplier } ∧
      c.visit.1 = .ok { id := old.id, name := old.name, audience := .buyer } ∧
      ¬c.ReportsNew before after := by
  intro old new c before after
  have accepted : c.Accepted "rfq_1" before after :=
    filing_accepted (by decide +kernel) (by decide +kernel) (by decide) (by decide +kernel)
      (by decide +kernel)
  have hnamed : Named after := by decide +kernel
  let d : Summary := { id := old.id, name := old.name, audience := .buyer }
  have hfirst : c.IsFirst after d := ⟨rfl, [], _, rfl, by simp⟩
  refine ⟨accepted, ⟨?_, rfl, rfl, by decide +kernel⟩,
    Uploading.visit_of_first accepted hnamed hfirst, ?_⟩
  · exact List.mem_append_right _ (List.mem_singleton.2 rfl)
  · intro hreports
    have hnew : c.IsNew before after d :=
      ((Uploading.reportsNew_iff accepted).1 hreports).2 d hfirst
    cases hnew.audience

end Desk
end TenderDesk
