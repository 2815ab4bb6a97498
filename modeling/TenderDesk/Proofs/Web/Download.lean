import Mathlib.Data.List.DropRight
import TenderDesk.Proofs.Desk.Fetching
import TenderDesk.Proofs.Web.Admission

/-!
# Download — a document on its way to a caller

A file is answered with its octets and a content disposition that tells its name, without quotes.

* `savedName?` reads the name in a disposition, as leniently as browsers do: what is not quoted goes
  on up to the next semicolon.
* `Savable` names are told by a header of a single line, and they are read there as they are.
* `Download.carried_iff`: a file that the platform gives out arrives as it should exactly when its
  name is savable and its type can stand in a header. Where a header cannot carry one of them, the
  answer is an internal error.
-/

namespace TenderDesk
namespace Web

open Schema

/-! ## Dispositions -/

/-- Blanks that do not count around the value of a parameter. -/
def isPadding (c : Char) : Bool :=
  c == ' ' || c == '\t'

/-- The text up to the closing quote; a character behind a backslash is meant as it is. -/
def unquote : List Char → List Char
  | '\\' :: c :: cs => c :: unquote cs
  | '"' :: _ => []
  | c :: cs => c :: unquote cs
  | [] => []

/-- The value of a parameter: what stands between quotes, or else all that is left up to the next
semicolon, without blanks around it. -/
def parameterValue (cs : List Char) : List Char :=
  match cs.dropWhile isPadding with
  | '"' :: quoted => unquote quoted
  | plain => (plain.takeWhile (· != ';')).rdropWhile isPadding

/-- The file name in a content disposition, where its first parameter tells it. -/
def savedName? (disposition : String) : Option String :=
  let parameters := (disposition.toList.dropWhile (· != ';')).drop 1
  let parameter := parameters.dropWhile isPadding
  if "filename=".toList.isPrefixOf parameter then
    some (String.ofList (parameterValue (parameter.drop "filename=".length)))
  else none

/-- No line breaks, which would end a header. -/
def OneLine (s : String) : Prop :=
  ∀ c ∈ s.toList, c ≠ '\n' ∧ c ≠ '\r'

instance (s : String) : Decidable (OneLine s) :=
  decidable_of_iff (s.toList.all fun c => c != '\n' && c != '\r') (by simp [OneLine])

/-- An answer by which a file is saved under its name. -/
structure Response.Carries (answer : Response) (name : String) (bytes : List UInt8) : Prop where
  status : answer.status = 200
  content : answer.content = .octets bytes
  disposition : ∃ value, answer.header? "content-disposition" = some value ∧ OneLine value ∧
    savedName? value = some name

/-! ## Names -/

/-- A name that is its own value of a parameter. -/
structure Unquoted (cs : List Char) : Prop where
  whole : ';' ∉ cs
  start : ∀ c ∈ cs.head?, c ≠ '"' ∧ isPadding c = false
  finish : ∀ c ∈ cs.getLast?, isPadding c = false

instance (cs : List Char) : Decidable (Unquoted cs) :=
  decidable_of_iff (';' ∉ cs ∧ cs.head?.all (fun c => c != '"' && !isPadding c) ∧
      cs.getLast?.all fun c => !isPadding c) <| by
    constructor
    · rintro ⟨hwhole, hstart, hfinish⟩
      refine ⟨hwhole, fun c hc => ?_, fun c hc => ?_⟩
      · rw [Option.mem_def.1 hc] at hstart
        simpa using hstart
      · rw [Option.mem_def.1 hc] at hfinish
        simpa using hfinish
    · rintro ⟨hwhole, hstart, hfinish⟩
      refine ⟨hwhole, ?_, ?_⟩
      · cases hc : cs.head? with
        | none => rfl
        | some c => simpa using hstart c hc
      · cases hc : cs.getLast? with
        | none => rfl
        | some c => simpa using hfinish c hc

/-- A name that a header of a single line can carry, and that is read there as it is. -/
structure Savable (name : String) : Prop where
  octets : Response.isHeaderText name = true
  oneLine : OneLine name
  unquoted : Unquoted name.toList

instance (name : String) : Decidable (Savable name) :=
  decidable_of_iff (Response.isHeaderText name = true ∧ OneLine name ∧ Unquoted name.toList)
    ⟨fun ⟨h, h', h''⟩ => ⟨h, h', h''⟩, fun ⟨h, h', h''⟩ => ⟨h, h', h''⟩⟩

example : Savable "terms and prices.pdf" ∧ ¬Savable "a;b.pdf" := by decide +kernel

theorem unquote_sublist (cs : List Char) : (unquote cs).Sublist cs := by
  fun_induction unquote cs with
  | case1 c cs ih => exact (ih.cons_cons c).cons _
  | case2 cs => exact List.nil_sublist _
  | case3 c cs _ _ ih => exact ih.cons_cons c
  | case4 => exact List.nil_sublist _

theorem parameterValue_sublist (cs : List Char) :
    (parameterValue cs).Sublist (cs.dropWhile isPadding) := by
  unfold parameterValue
  split
  · rename_i quoted heq
    rw [heq]
    exact (unquote_sublist quoted).cons _
  · exact (List.rdropWhile_prefix _ _).sublist.trans (List.takeWhile_sublist _)

/-- Reading a value only leaves out characters, so it leaves none out where nothing changes. -/
theorem unquoted_of_parameterValue_eq {cs : List Char} (h : parameterValue cs = cs) :
    Unquoted cs := by
  have hstart : cs.dropWhile isPadding = cs :=
    (List.dropWhile_sublist _).antisymm (by simpa only [h] using parameterValue_sublist cs)
  unfold parameterValue at h
  rw [hstart] at h
  split at h
  · rename_i quoted
    have hshort := (unquote_sublist quoted).length_le
    rw [h, List.length_cons] at hshort
    omega
  · rename_i hquote
    have hwhole : cs.takeWhile (· != ';') = cs := by
      refine (List.takeWhile_sublist _).antisymm ?_
      have hsublist := (List.rdropWhile_prefix isPadding (cs.takeWhile (· != ';'))).sublist
      rwa [h] at hsublist
    rw [hwhole] at h
    refine ⟨fun hmem => ?_, fun c hc => ?_, fun c hc => ?_⟩
    · simpa using List.takeWhile_eq_self_iff.1 hwhole _ hmem
    · obtain ⟨rest, rfl⟩ : ∃ rest, cs = c :: rest := by
        cases cs with
        | nil => cases hc
        | cons c' rest =>
            cases hc
            exact ⟨rest, rfl⟩
      refine ⟨fun heq => hquote rest (by rw [heq]), ?_⟩
      simpa using List.dropWhile_eq_self_iff.1 hstart
    · have hne : cs ≠ [] := fun hnil => by
        rw [hnil] at hc
        cases hc
      have hlast := List.rdropWhile_eq_self_iff.1 h hne
      rw [List.getLast?_eq_some_getLast hne] at hc
      cases hc
      simpa using hlast

theorem Unquoted.parameterValue_eq {cs : List Char} (h : Unquoted cs) : parameterValue cs = cs := by
  have hwhole : cs.takeWhile (· != ';') = cs :=
    List.takeWhile_eq_self_iff.2 fun c hc => bne_iff_ne.2 fun heq => h.whole (heq ▸ hc)
  have hfinish : cs.rdropWhile isPadding = cs := by
    rw [List.rdropWhile_eq_self_iff]
    intro hne
    simp [h.finish _ (List.getLast?_eq_some_getLast hne)]
  unfold parameterValue
  cases cs with
  | nil => rfl
  | cons c rest =>
      obtain ⟨hquote, hpadding⟩ := h.start c rfl
      rw [List.dropWhile_cons_of_neg (by simp [hpadding])]
      split
      · rename_i heq
        cases heq
        exact absurd rfl hquote
      · rw [hwhole, hfinish]

/-! ## Files -/

theorem savedName?_attachment (name : String) :
    savedName? ("attachment; filename=" ++ name) =
      some (String.ofList (parameterValue name.toList)) := by
  unfold savedName?
  rw [String.toList_append]
  rfl

theorem isHeaderText_attachment (name : String) :
    Response.isHeaderText ("attachment; filename=" ++ name) = Response.isHeaderText name := by
  unfold Response.isHeaderText
  rw [String.toList_append, List.all_append]
  rfl

theorem oneLine_attachment {name : String} :
    OneLine ("attachment; filename=" ++ name) ↔ OneLine name := by
  have hlabel : OneLine "attachment; filename=" := by decide +kernel
  unfold OneLine at hlabel ⊢
  rw [String.toList_append]
  constructor
  · exact fun h c hc => h c (List.mem_append_right _ hc)
  · intro h c hc
    rcases List.mem_append.1 hc with hc | hc
    · exact hlabel c hc
    · exact h c hc

/-- The headers can tell the type and the name of a file. -/
def Tellable (file : Document.File) : Prop :=
  Response.isHeaderText (Response.contentType file.contentType) = true ∧
    Response.isHeaderText file.name = true

section

variable {file : Document.File}

theorem ofFile_of_tellable (h : Tellable file) :
    Response.ofFile file = {
      status := 200
      headers := [("content-disposition", "attachment; filename=" ++ file.name),
        ("content-type", Response.contentType file.contentType)]
      content := .octets file.data } := by
  unfold Response.ofFile
  dsimp only
  rw [isHeaderText_attachment, h.1, h.2]
  rfl

theorem ofFile_of_not_tellable (h : ¬Tellable file) :
    Response.ofFile file = .internalError := by
  unfold Response.ofFile
  dsimp only
  rw [isHeaderText_attachment]
  exact if_neg fun hboth => h (Bool.and_eq_true_iff.1 hboth)

/-- An answer with a file has its octets, and there is none where the headers cannot tell it. -/
theorem ofFile_cases (file : Document.File) :
    Tellable file ∧ (Response.ofFile file).status = 200 ∧
        (Response.ofFile file).content = .octets file.data ∨
      ¬Tellable file ∧ (Response.ofFile file).status = 500 := by
  by_cases htell : Tellable file
  · rw [ofFile_of_tellable htell]
    exact .inl ⟨htell, rfl, rfl⟩
  · rw [ofFile_of_not_tellable htell]
    exact .inr ⟨htell, rfl⟩

/-- A file is carried exactly when its name is savable and its type can be told. -/
theorem carries_ofFile_iff (file : Document.File) :
    (Response.ofFile file).Carries file.name file.data ↔
      Response.isHeaderText (Response.contentType file.contentType) = true ∧
        Savable file.name := by
  by_cases htell : Tellable file
  · rw [ofFile_of_tellable htell]
    constructor
    · rintro ⟨-, -, value, hvalue, hline, hname⟩
      cases hvalue
      rw [savedName?_attachment] at hname
      have hsame : parameterValue file.name.toList = file.name.toList := by
        have hlist := congrArg String.toList (Option.some.inj hname)
        rwa [String.toList_ofList] at hlist
      exact ⟨htell.1, htell.2, oneLine_attachment.1 hline, unquoted_of_parameterValue_eq hsame⟩
    · rintro ⟨-, hsavable⟩
      refine ⟨rfl, rfl, _, rfl, oneLine_attachment.2 hsavable.oneLine, ?_⟩
      rw [savedName?_attachment, hsavable.unquoted.parameterValue_eq, String.ofList_toList]
  · rw [ofFile_of_not_tellable htell]
    constructor
    · rintro ⟨hstatus, -, -⟩
      cases hstatus
    · rintro ⟨htype, hsavable⟩
      exact absurd ⟨htype, hsavable.octets⟩ htell

end

theorem header?_withGrants (allowed : List String) (origin : String) (answer : Response) :
    (withGrants allowed origin answer).header? "content-disposition" =
      answer.header? "content-disposition" := by
  have hgrants : (Origin.grants allowed origin).find? (fun h => h.1 == "content-disposition") =
      none := by
    unfold Origin.grants
    split <;> rfl
  unfold withGrants
  split
  · rfl
  · unfold Response.header?
    rw [List.find?_append, hgrants, Option.or_none]

theorem content_withGrants (allowed : List String) (origin : String) (answer : Response) :
    (withGrants allowed origin answer).content = answer.content := by
  unfold withGrants
  split <;> rfl

theorem carries_withGrants_iff {allowed : List String} {origin : String} {answer : Response}
    {name : String} {bytes : List UInt8} :
    (withGrants allowed origin answer).Carries name bytes ↔ answer.Carries name bytes := by
  constructor
  · rintro ⟨hstatus, hcontent, hdisposition⟩
    rw [status_withGrants] at hstatus
    rw [content_withGrants] at hcontent
    rw [header?_withGrants] at hdisposition
    exact ⟨hstatus, hcontent, hdisposition⟩
  · rintro ⟨hstatus, hcontent, hdisposition⟩
    refine ⟨?_, ?_, ?_⟩
    · rw [status_withGrants, hstatus]
    · rw [content_withGrants, hcontent]
    · rw [header?_withGrants]
      exact hdisposition

/-! ## Requests -/

/-- A request for a document over the web, and everything that it meets. -/
structure Download (ω : Type) extends Desk.Fetching ω where
  gate : Gate
  request : Request

namespace Download

variable {ω : Type}

/-- The path names the document, and the caller may come in. -/
structure Admitted (d : Download ω) : Prop where
  method : d.request.method = "GET"
  path : ∃ project, Codec.wholeOfText project = Checked.ok d.project ∧
    d.request.segments =
      ["", "tenders", "projects", project, "events", d.event, "documents", d.document]
  token : ¬Unadmitted d.gate d.request
  isReady : d.gate.isReady = true

/-- How the request is answered. -/
def served (d : Download ω) : Except Failure Response × Desk.Run ω :=
  serve d.gate d.settings d.request d.surroundings (.start d.saved d.memory)

/-- The answer to what comes of the call. -/
def answerTo : Except Failure Document.File → Response
  | .ok file => .ofFile file
  | .error failure => .ofFailure failure

/-- What is said about the origin of the request is added to the answer. -/
def granted (d : Download ω) (answer : Response) : Response :=
  match d.request.header? "origin" with
  | none => answer
  | some origin => withGrants d.gate.origins origin answer

variable {d : Download ω} {row : Row} {record : String} {key : Document.Key}

theorem target_eq (h : d.Admitted) (ready : d.Ready row record key) :
    ∃ project, Codec.wholeOfText project = Checked.ok d.project ∧
      d.request.target = .operation (.getDocument project d.event d.document) := by
  obtain ⟨project, hproject, hsegments⟩ := h.path
  refine ⟨project, hproject, ?_⟩
  have hnumber : project ≠ "" := by
    rintro rfl
    cases hproject
  have hdocument : d.document ≠ "" := by
    intro hempty
    have hdecoded := ready.decoded
    rw [hempty] at hdecoded
    cases hdecoded
  have hevent : d.event ≠ "" := by
    intro hempty
    obtain ⟨number, hnumber, -⟩ := ready.names
    rw [hempty] at hnumber
    simp [Desk.eventNumber] at hnumber
  unfold Request.target
  rw [hsegments, h.method]
  simp [Route.ofSegments?, Route.ofEventParts?, Route.operation?, hnumber, hdocument, hevent]

theorem callOf_eq (h : d.Admitted) {project : String}
    (hproject : Codec.wholeOfText project = Checked.ok d.project) :
    callOf d.gate d.request (.getDocument project d.event d.document) =
      .ok (.desk (.getDocument d.project d.event d.document)) := by
  have htoken : authenticate d.gate d.request = .ok () := by
    rcases authenticate_cases d.gate d.request with ⟨hunadmitted, -⟩ | ⟨-, hok⟩
    · exact absurd hunadmitted h.token
    · exact hok
  have hread : projectOf project = Checked.ok d.project := by
    unfold projectOf
    rw [hproject]
    rfl
  unfold callOf
  simp only [bodyFor, htoken, h.isReady, Call.ofParts, hread]
  rfl

theorem answerCall_document (d : Download ω) :
    answerCall d.settings (.desk (.getDocument d.project d.event d.document)) d.surroundings
        (.start d.saved d.memory) = (.ok (answerTo d.visit.1), d.visit.2) := by
  have hperform : (Call.desk (.getDocument d.project d.event d.document)).perform d.settings
      d.surroundings (.start d.saved d.memory) = (d.visit.1.map Response.ofFile, d.visit.2) := by
    show ((Desk.Call.getDocument d.project d.event d.document).perform d.settings >>=
      fun file => pure (Response.ofFile file)) d.surroundings (.start d.saved d.memory) = _
    rw [Desk.Action.bind_apply, show (Desk.Call.getDocument d.project d.event d.document).perform
      d.settings d.surroundings (.start d.saved d.memory) = d.visit from rfl]
    rcases d.visit with ⟨_ | _, _⟩ <;> rfl
  unfold answerCall
  rw [Desk.Action.bind_apply, Desk.Action.attempt_apply, hperform]
  cases d.visit.1 <;> rfl

/-- An admitted request is answered with what comes of the call for the document. -/
theorem served_eq (h : d.Admitted) (ready : d.Ready row record key) :
    d.served = (.ok (d.granted (answerTo d.visit.1)), d.visit.2) := by
  obtain ⟨project, hproject, htarget⟩ := target_eq h ready
  have hdispatch : dispatch d.gate d.settings d.request d.surroundings (.start d.saved d.memory) =
      (.ok (answerTo d.visit.1), d.visit.2) := by
    unfold dispatch
    rw [htarget]
    dsimp only
    rw [callOf_eq h hproject]
    exact answerCall_document d
  unfold served serve granted
  cases d.request.header? "origin" with
  | none => exact hdispatch
  | some origin =>
      dsimp only
      rw [askedMethod?_of_operation htarget]
      exact Desk.Action.bind_of_ok hdispatch

theorem carries_granted_iff {answer : Response} {name : String} {bytes : List UInt8} :
    (d.granted answer).Carries name bytes ↔ answer.Carries name bytes := by
  unfold granted
  split
  · rfl
  · exact carries_withGrants_iff

theorem status_granted (answer : Response) : (d.granted answer).status = answer.status := by
  unfold granted
  split
  · rfl
  · exact status_withGrants _ _ _

theorem content_granted (answer : Response) : (d.granted answer).content = answer.content := by
  unfold granted
  split
  · rfl
  · exact content_withGrants _ _ _

/-- An admitted request for a document that the platform gives out is answered, after the file was
asked for once. The answer is the file as it should be saved exactly when its name is savable and
its type can stand in a header. It is an internal error exactly when the headers cannot tell the
type or the name; otherwise it has status 200 and the octets that the platform gave out. -/
theorem carried_iff (h : d.Admitted) (ready : d.Ready row record key) (haddressed : d.Addressed)
    {type : Option String} {body : Sourcing.Payload}
    (hreply : d.reply key = .answered 200 type body) :
    Desk.requestsOf d.served.2.asked = [.showFile key] ∧ d.served.2.session = .fresh d.saved ∧
      ∃ answer, d.served.1 = .ok answer ∧
        (answer.Carries key.name body.octets ↔
          Response.isHeaderText (Response.contentType type) = true ∧ Savable key.name) ∧
        (answer.status = 500 ↔
          ¬(Response.isHeaderText (Response.contentType type) = true ∧
            Response.isHeaderText key.name = true)) ∧
        (answer.status ≠ 500 → answer.status = 200 ∧ answer.content = .octets body.octets) := by
  have hvisit := d.visit_of_addressed ready haddressed
  have hserved := served_eq h ready
  have hfile : d.visit.1 = .ok ⟨key.name, type, body.octets⟩ := by
    rw [hvisit, hreply]
    rfl
  have hsent := Desk.Fetching.requestsOf_of_addressed ready haddressed
  rw [hserved, hfile]
  refine ⟨hsent, by rw [hvisit]; rfl, _, rfl, ?_, ?_, ?_⟩
  · rw [carries_granted_iff]
    exact carries_ofFile_iff ⟨key.name, type, body.octets⟩
  all_goals
    rw [status_granted]
    rcases ofFile_cases ⟨key.name, type, body.octets⟩ with
      ⟨htell, hstatus, hcontent⟩ | ⟨htell, hstatus⟩
  · exact ⟨fun hwrong => by simp [answerTo, hstatus] at hwrong, fun hnot => absurd htell hnot⟩
  · exact ⟨fun _ => htell, fun _ => hstatus⟩
  · rw [content_granted]
    exact fun _ => ⟨hstatus, hcontent⟩
  · exact fun hne => absurd hstatus hne

/-! ## Names that do not arrive -/

/-- An event whose record is on the platform. -/
def filedRow : Row where
  id := 1
  project := 1
  name := "Pens"
  kind := "RFI"
  naming := Desk.benchSettings.naming
  externalId := some "rfq_1"
  createdBy := ""
  updatedBy := ""

def filedStore : Store where
  projects := [Desk.benchProject]
  rows := [filedRow]

/-- Asks for a document of the event; the platform gives out a file of two octets. -/
def filed (key : Document.Key) : Download Desk.Scene where
  settings := Desk.benchSettings
  surroundings := Desk.Scene.surroundings
  saved := filedStore
  memory := Desk.replyScene (.answered 200 (some "application/pdf") (.ofText "%P"))
  project := 1
  event := "ocds-b5fd17-1"
  document := key.id
  gate := { token := some "secret" }
  request := {
    method := "GET"
    path := "/tenders/projects/1/events/ocds-b5fd17-1/documents/" ++ key.id
    headers := [("Authorization", "Bearer secret")] }

theorem filedRow_named :
    Desk.Names Desk.benchSettings.naming filedStore 1 "ocds-b5fd17-1" filedRow :=
  ⟨1, by decide +kernel, by decide +kernel⟩

theorem filedStore_reads : filedStore.Reads [1, 1] :=
  ⟨by decide +kernel, by decide +kernel⟩

theorem filed_admitted {key : Document.Key} (h : (filed key).request.segments =
    ["", "tenders", "projects", "1", "events", "ocds-b5fd17-1", "documents", key.id]) :
    (filed key).Admitted where
  method := rfl
  path := ⟨"1", rfl, h⟩
  token := by
    intro hunadmitted
    have hheader : (filed key).request.header? "authorization" =
        some ("Bearer" ++ " " ++ "secret") :=
      show ([("Authorization", "Bearer secret")].find? fun h =>
        foldCase h.1 == "authorization").map Prod.snd = _ by decide +kernel
    have hshows : Shows ("Bearer" ++ " " ++ "secret") "Bearer" "secret" :=
      .credentials (by decide) "secret"
    have hpass : authenticate (filed key).gate (filed key).request = .ok () := by
      unfold authenticate
      rw [bearerToken?_of_header hheader hshows, if_pos (by decide +kernel)]
      exact if_pos rfl
    rcases authenticate_cases (filed key).gate (filed key).request with ⟨-, _, hstop, -⟩ | ⟨h, -⟩
    · rw [hpass] at hstop
      cases hstop
    · exact h hunadmitted
  isReady := rfl

theorem filed_ready {key : Document.Key} (h : Document.Key.ofId? key.id = some key) :
    (filed key).Ready filedRow "rfq_1" key where
  names := filedRow_named
  answered := rfl
  reads := filedStore_reads
  platform := ⟨.rfi, rfl, rfl⟩
  external := rfl
  nonempty := by decide
  decoded := h

theorem filed_addressed (key : Document.Key) : (filed key).Addressed :=
  ⟨"http://remote.test/attachment",
    show Sourcing.urlOf Desk.benchSettings.platform "getAttachment" = _ by decide +kernel⟩

/-- A plain name arrives. -/
theorem carried_iff_plain :
    ∃ answer, (filed ⟨7, "terms.pdf"⟩).served.1 = .ok answer ∧
      answer.Carries "terms.pdf" [0x25, 0x50] := by
  have hadmitted : (filed ⟨7, "terms.pdf"⟩).Admitted := filed_admitted (by decide +kernel)
  have hready : (filed ⟨7, "terms.pdf"⟩).Ready filedRow "rfq_1" ⟨7, "terms.pdf"⟩ :=
    filed_ready (by decide +kernel)
  have hreply : (filed ⟨7, "terms.pdf"⟩).reply ⟨7, "terms.pdf"⟩ =
      .answered 200 (some "application/pdf") (.ofText "%P") := rfl
  obtain ⟨-, -, answer, hanswer, hcarries, -⟩ :=
    carried_iff hadmitted hready (filed_addressed _) hreply
  have hoctets : (Sourcing.Payload.ofText "%P").octets = [0x25, 0x50] := by decide +kernel
  rw [hoctets] at hcarries
  exact ⟨answer, hanswer, hcarries.2 ⟨by decide +kernel, by decide +kernel⟩⟩

/-- A name of other scripts makes the answer an internal error. A name with a semicolon is cut off
there, and one with a line break breaks the header. -/
theorem name_lost :
    let foreign : Document.Key := ⟨7, "文.pdf"⟩
    let divided : Document.Key := ⟨7, "a;b.pdf"⟩
    let broken : Document.Key := ⟨7, "a\nb.pdf"⟩
    (∀ key ∈ [foreign, divided, broken], (filed key).Admitted ∧
      (filed key).Ready filedRow "rfq_1" key ∧ (filed key).Addressed ∧
      (filed key).reply key = .answered 200 (some "application/pdf") (.ofText "%P")) ∧
      (filed foreign).served.1 = .ok .internalError ∧
      (((filed divided).served.1.toOption.bind (·.header? "content-disposition")).bind
        savedName?) = some "a" ∧
      ((filed broken).served.1.toOption.bind (·.header? "content-disposition")) =
        some "attachment; filename=a\nb.pdf" := by
  intro foreign divided broken
  refine ⟨fun key hkey => ?_, by decide +kernel, by decide +kernel, by decide +kernel⟩
  have hpath : (filed key).request.segments =
      ["", "tenders", "projects", "1", "events", "ocds-b5fd17-1", "documents", key.id] := by
    revert key
    decide +kernel
  have hid : Document.Key.ofId? key.id = some key := by
    revert key
    decide +kernel
  exact ⟨filed_admitted hpath, filed_ready hid, filed_addressed key, rfl⟩

end Download

end Web
end TenderDesk
