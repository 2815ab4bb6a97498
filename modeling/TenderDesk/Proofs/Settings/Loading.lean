import TenderDesk.Proofs.Json.Members
import TenderDesk.Proofs.Settings.Source

/-!
# Loading — what comes of the texts of tables

* `Tabular`, `Foreign`, `Broken` and `Deep` tell the texts apart that may be given for a table:
  those that give entries, those of another JSON value, those that are not JSON, and those that are
  nested more deeply than there is room for.
* `Readable` says which texts settings are loaded from, and `Complete` what these settings have from
  them. `Torn` says where the first thing that is wrong is a text that is not JSON, and `Astray`
  where it is a table that is no object, or something that is nested too deeply.
* `load_outcome` tells the three ends of loading apart: with settings, with a fault of a value, and
  with a fault that is none of a value, which comes of texts that are astray.
-/

namespace TenderDesk
namespace Settings

open Schema

/-- A fault that says of a value that it is wrong. The others come of a value of a type that nobody
looked at, or of one that is nested too deeply. -/
def SourceFault.isValue : SourceFault → Bool
  | .notText _ | .notObject _ | .notList _ | .extensionNotText _ | .tooDeep _ => false
  | _ => true

/-! ## Texts of tables -/

/-- The entries that a text gives for a table; an empty text stands for `blank`. -/
inductive Tabular (room : Nat) (blank : List (RawText × Json)) :
    String → List (RawText × Json) → Prop
  | blank : Tabular room blank "" blank
  | object {text : String} {ms : List (RawText × Json)}
      (h : Json.parse room text = .ok (.obj ms)) : Tabular room blank text ms

/-- The text of a value that is no table. -/
def Foreign (room : Nat) (text : String) : Prop :=
  ∃ j, Json.parse room text = .ok j ∧ ∀ ms, j ≠ .obj ms

/-- A text that is not JSON. -/
def Broken (room : Nat) (text : String) : Prop :=
  text ≠ "" ∧ ∃ fault, Json.parse room text = .error fault ∧ fault.isDepth = false

/-- A text that is nested more deeply than there is room for. -/
def Deep (room : Nat) (text : String) : Prop :=
  ∃ fault, Json.parse room text = .error fault ∧ fault.isDepth = true

/-- A text without a fault that would stop the parser. -/
def Parsed (room : Nat) (text : String) : Prop :=
  text = "" ∨ ∃ j, Json.parse room text = .ok j

theorem ne_empty_of_parse {room : Nat} {text : String} {j : Json}
    (h : Json.parse room text = .ok j) : text ≠ "" := by
  rintro rfl
  cases h

section

variable {room : Nat} {text : String} {blank ms : List (RawText × Json)}

theorem Deep.ne_empty (h : Deep room text) : text ≠ "" := by
  rintro rfl
  obtain ⟨fault, hfault, hdepth⟩ := h
  cases hfault
  cases hdepth

theorem Tabular.distinct (h : Tabular room blank text ms) (hblank : Json.Distinct blank) :
    Json.Distinct ms := by
  cases h with
  | blank => exact hblank
  | object h => exact Json.distinct_of_parse h

theorem parsed_or_broken_or_deep (room : Nat) (text : String) :
    Parsed room text ∨ Broken room text ∨ Deep room text := by
  by_cases hempty : text = ""
  · exact .inl (.inl hempty)
  · cases hparse : Json.parse room text with
    | ok j => exact .inl (.inr ⟨j, hparse⟩)
    | error fault =>
        cases hdepth : fault.isDepth with
        | false => exact .inr (.inl ⟨hempty, fault, hparse, hdepth⟩)
        | true => exact .inr (.inr ⟨fault, hparse, hdepth⟩)

theorem Parsed.tabular_or_foreign (h : Parsed room text) (blank : List (RawText × Json)) :
    (∃ ms, Tabular room blank text ms) ∨ Foreign room text := by
  rcases h with rfl | ⟨j, hparse⟩
  · exact .inl ⟨blank, .blank⟩
  · cases j with
    | obj ms => exact .inl ⟨ms, .object hparse⟩
    | _ => exact .inr ⟨_, hparse, nofun⟩

/-- The texts of tables, told apart. -/
theorem tabular_or_foreign_or_broken_or_deep (room : Nat) (blank : List (RawText × Json))
    (text : String) :
    (∃ ms, Tabular room blank text ms) ∨ Foreign room text ∨ Broken room text ∨ Deep room text := by
  rcases parsed_or_broken_or_deep room text with hparsed | hother
  · exact (hparsed.tabular_or_foreign blank).imp_right .inl
  · exact .inr (.inr hother)

end

/-! ## Reading texts -/

section

variable {room : Nat} {text : String} {ms : List (RawText × Json)}

theorem isEmpty_text (h : text ≠ "") : (Json.str text).isEmpty = false := by
  simpa [Json.isEmpty, RawText.isEmpty] using h

theorem parsed_of_broken {tell : String → Json.Fault → SourceFault}
    (htell : ∀ s fault, (tell s fault).isValue = true) (h : Broken room text) :
    ∃ fault, parsed room tell (.str text) = .error fault ∧ fault.isValue = true := by
  obtain ⟨-, fault, hfault, hdepth⟩ := h
  simp only [parsed, RawText.repaired_whole, hfault]
  split
  · exact ⟨_, rfl, rfl⟩
  · rename_i hlevels
    simp only [Json.Fault.isDepth, hlevels] at hdepth
    cases hdepth
  · exact ⟨_, rfl, htell _ _⟩

theorem parsed_of_deep {tell : String → Json.Fault → SourceFault} (h : Deep room text) :
    ∃ message, parsed room tell (.str text) = .error (.tooDeep message) := by
  obtain ⟨fault, hfault, hdepth⟩ := h
  obtain ⟨expected, offset⟩ := fault
  cases expected with
  | fewerLevels sort =>
      refine ⟨Json.Fault.message text ⟨.fewerLevels sort, offset⟩, ?_⟩
      simp only [parsed, RawText.repaired_whole, hfault]
  | _ => cases hdepth

theorem parsed_of_parse {tell : String → Json.Fault → SourceFault} {j : Json}
    (h : Json.parse room text = .ok j) : parsed room tell (.str text) = .ok j := by
  simp only [parsed, RawText.repaired_whole, h]

/-- Entries that are texts, as members. -/
def textMembers (table : List (RawText × RawText)) : List (RawText × Json) :=
  table.map fun e => (e.1, .str e.2)

/-- Entries that are statuses, as members. -/
def statusMembersOf (table : List (RawText × Status)) : List (RawText × Json) :=
  table.map fun e => (e.1, .str e.2.name)

theorem tableOver_of_tabular (base : List (RawText × RawText)) (h : Tabular room [] text ms) :
    tableOver room base (.str text) = .ok (merge (textMembers base) ms) := by
  cases h with
  | blank => rfl
  | object h =>
      have hfull := isEmpty_text (ne_empty_of_parse h)
      simp only [tableOver, hfull, parsed_of_parse h]
      rfl

theorem tableOver_of_parsed_error (base : List (RawText × RawText)) {fault : SourceFault}
    (hfull : text ≠ "") (h : parsed room .tableText (.str text) = .error fault) :
    tableOver room base (.str text) = .error fault := by
  simp only [tableOver, isEmpty_text hfull, h]
  rfl

theorem tableOver_of_foreign (base : List (RawText × RawText)) (h : Foreign room text) :
    ∃ sort, tableOver room base (.str text) = .error (.notObject sort) := by
  obtain ⟨j, hj, hother⟩ := h
  have hfull := isEmpty_text (ne_empty_of_parse hj)
  refine ⟨j.sort, ?_⟩
  simp only [tableOver, hfull, parsed_of_parse hj]
  cases j with
  | obj ms => exact absurd rfl (hother ms)
  | _ => rfl

theorem tableOver_of_broken (base : List (RawText × RawText)) (h : Broken room text) :
    ∃ fault, tableOver room base (.str text) = .error fault ∧ fault.isValue = true := by
  obtain ⟨fault, hfault, hvalue⟩ := @parsed_of_broken room text .tableText (fun _ _ => rfl) h
  exact ⟨fault, tableOver_of_parsed_error base h.1 hfault, hvalue⟩

/-- A table that is no object stops the reading like one that is nested too deeply. -/
theorem tableOver_of_unfit (base : List (RawText × RawText))
    (h : Foreign room text ∨ Deep room text) :
    ∃ fault, tableOver room base (.str text) = .error fault ∧ fault.isValue = false := by
  rcases h with hforeign | hdeep
  · obtain ⟨sort, hsort⟩ := tableOver_of_foreign base hforeign
    exact ⟨_, hsort, rfl⟩
  · obtain ⟨message, hmessage⟩ := @parsed_of_deep room text .tableText hdeep
    exact ⟨_, tableOver_of_parsed_error base hdeep.ne_empty hmessage, rfl⟩

theorem statusMembers_of_tabular (h : Tabular room (statusMembersOf defaultStatuses) text ms) :
    statusMembers room (.str text) = .ok (.obj ms) := by
  cases h with
  | blank => rfl
  | object h =>
      have hfull := isEmpty_text (ne_empty_of_parse h)
      simp only [statusMembers, hfull]
      exact parsed_of_parse h

theorem statusMembers_of_foreign (h : Foreign room text) :
    ∃ j, statusMembers room (.str text) = .ok j ∧ membersOf j = .error (.notObject j.sort) := by
  obtain ⟨j, hj, hother⟩ := h
  have hfull := isEmpty_text (ne_empty_of_parse hj)
  refine ⟨j, ?_, ?_⟩
  · simp only [statusMembers, hfull]
    exact parsed_of_parse hj
  · cases j with
    | obj ms => exact absurd rfl (hother ms)
    | _ => rfl

theorem statusMembers_of_parsed (h : Parsed room text) :
    ∃ j, statusMembers room (.str text) = .ok j := by
  rcases h.tabular_or_foreign (statusMembersOf defaultStatuses) with ⟨ms, htable⟩ | hforeign
  · exact ⟨_, statusMembers_of_tabular htable⟩
  · obtain ⟨j, hj, -⟩ := statusMembers_of_foreign hforeign
    exact ⟨j, hj⟩

theorem statusMembers_of_broken (h : Broken room text) :
    ∃ fault, statusMembers room (.str text) = .error fault ∧ fault.isValue = true := by
  obtain ⟨fault, hfault, hvalue⟩ := @parsed_of_broken room text .statusText (fun _ _ => rfl) h
  refine ⟨fault, ?_, hvalue⟩
  simp only [statusMembers, isEmpty_text h.1]
  exact hfault

theorem statusMembers_of_deep (h : Deep room text) :
    ∃ message, statusMembers room (.str text) = .error (.tooDeep message) := by
  obtain ⟨message, hmessage⟩ := @parsed_of_deep room text .statusText h
  refine ⟨message, ?_⟩
  simp only [statusMembers, isEmpty_text h.ne_empty]
  exact hmessage

end

/-! ## Reading entries -/

/-- Every entry is a text. -/
def Texts (ms : List (RawText × Json)) : Prop :=
  ∀ m ∈ ms, ∃ s, m.2 = .str s

theorem texts_textMembers (table : List (RawText × RawText)) : Texts (textMembers table) := by
  intro m hm
  obtain ⟨e, -, rfl⟩ := List.mem_map.1 hm
  exact ⟨e.2, rfl⟩

theorem readTexts_eq_ok {ms : List (RawText × Json)} {table : List (RawText × RawText)}
    (h : readTexts ms = Checked.ok table) : ms = textMembers table := by
  have hmembers : ∀ ms : List (RawText × Json), ∀ table,
      Checked.ofList (Codec.readMembers Codec.raw.read ms) = Checked.ok table →
        ms = textMembers table := by
    intro ms
    induction ms with
    | nil =>
        intro table h
        cases h
        rfl
    | cons m ms ih =>
        intro table h
        rcases Checked.ap_eq_ok h with ⟨f, rest, hf, hrest, rfl⟩
        rcases Checked.map_eq_ok hf with ⟨entry, hentry, rfl⟩
        rcases Checked.map_eq_ok (Checked.under_eq_ok hentry) with ⟨text, htext, rfl⟩
        have hvalue : m.2 = .str text := by
          cases hm : m.2 with
          | str s =>
              rw [hm] at htext
              cases htext
              rfl
          | _ =>
              rw [hm] at htext
              cases htext
        rw [ih rest hrest, textMembers, textMembers, List.map_cons, ← hvalue]
  exact hmembers ms table h

theorem readTexts_of_texts {ms : List (RawText × Json)} (h : Texts ms) :
    ∃ table, readTexts ms = Checked.ok table := by
  have hmembers : ∃ table,
      Checked.ofList (Codec.readMembers Codec.raw.read ms) = Checked.ok table := by
    induction ms with
    | nil => exact ⟨[], rfl⟩
    | cons m ms ih =>
        obtain ⟨s, hs⟩ := h m List.mem_cons_self
        obtain ⟨table, htable⟩ := ih fun m hm => h m (List.mem_cons_of_mem _ hm)
        obtain ⟨k, v⟩ := m
        cases hs
        exact ⟨(k, s) :: table, by simp only [Codec.readMembers, Checked.ofList, htable]; rfl⟩
  exact hmembers

/-- The status of an entry, if it names one. -/
def entryStatus? : Json → Option Status
  | .str (.whole s) => Status.ofName? s
  | _ => none

theorem entryStatus?_eq_some_iff {j : Json} {status : Status} :
    entryStatus? j = some status ↔ j = .str status.name := by
  constructor
  · intro h
    cases j with
    | str s =>
        cases s with
        | whole s =>
            have hname := List.find?_some (p := fun t : Status => t.name == s) h
            rw [← beq_iff_eq.1 hname]
        | torn s => cases h
    | _ => cases h
  · rintro rfl
    exact Status.ofName?_name status

theorem readStatuses_cons (shownRoom : Nat) (m : RawText × Json) (ms : List (RawText × Json)) :
    readStatuses shownRoom (m :: ms) =
      match entryStatus? m.2 with
      | some status => (readStatuses shownRoom ms).map fun table => (m.1, status) :: table
      | none => .error (notStatus shownRoom m.2) := by
  obtain ⟨code, value⟩ := m
  cases value with
  | str s => cases s <;> rfl
  | _ => rfl

theorem readStatuses_eq_ok_iff {shownRoom : Nat} {ms : List (RawText × Json)}
    {table : List (RawText × Status)} :
    readStatuses shownRoom ms = .ok table ↔ ms = statusMembersOf table := by
  induction ms generalizing table with
  | nil =>
      constructor
      · intro h
        cases h
        rfl
      · intro h
        rw [List.map_eq_nil_iff.1 h.symm]
        rfl
  | cons m ms ih =>
      rw [readStatuses_cons]
      constructor
      · intro h
        cases hstatus : entryStatus? m.2 with
        | none =>
            simp only [hstatus] at h
            cases h
        | some status =>
            simp only [hstatus] at h
            cases hrest : readStatuses shownRoom ms with
            | error fault =>
                rw [hrest] at h
                cases h
            | ok rest =>
                rw [hrest] at h
                cases h
                show m :: ms = (m.1, .str status.name) :: statusMembersOf rest
                rw [← ih.1 hrest, ← entryStatus?_eq_some_iff.1 hstatus]
      · intro h
        cases table with
        | nil => cases h
        | cons entry table =>
            obtain ⟨rfl, rfl⟩ := List.cons.inj h
            dsimp only
            rw [entryStatus?_eq_some_iff.2 rfl]
            dsimp only
            rw [ih.2 rfl]
            rfl

theorem notStatus_of_lt {shownRoom : Nat} {value : Json} (h : shownRoom < value.height) :
    (notStatus shownRoom value).isValue = false := by
  simp only [notStatus, if_neg (Nat.not_le.2 h)]
  rfl

theorem notStatus_of_le {shownRoom : Nat} {value : Json} (h : value.height ≤ shownRoom) :
    (notStatus shownRoom value).isValue = true := by
  simp only [notStatus, if_pos h]
  rfl

/-- The first value that is no status cannot be shown. -/
inductive Unshown (shownRoom : Nat) : List (RawText × Json) → Prop
  | here {m : RawText × Json} {ms : List (RawText × Json)} (h : entryStatus? m.2 = none)
      (hheight : shownRoom < m.2.height) : Unshown shownRoom (m :: ms)
  | later {m : RawText × Json} {ms : List (RawText × Json)} {status : Status}
      (h : entryStatus? m.2 = some status) (hrest : Unshown shownRoom ms) :
      Unshown shownRoom (m :: ms)

theorem readStatuses_of_unshown {shownRoom : Nat} {ms : List (RawText × Json)}
    (h : Unshown shownRoom ms) :
    ∃ fault, readStatuses shownRoom ms = .error fault ∧ fault.isValue = false := by
  induction h with
  | @here m ms h hheight =>
      exact ⟨notStatus shownRoom m.2, by simp only [readStatuses_cons, h],
        notStatus_of_lt hheight⟩
  | later h _ ih =>
      obtain ⟨fault, hfault, hvalue⟩ := ih
      exact ⟨fault, by simp only [readStatuses_cons, h, hfault, Except.map], hvalue⟩

theorem readStatuses_eq_error {shownRoom : Nat} {ms : List (RawText × Json)} {fault : SourceFault}
    (h : readStatuses shownRoom ms = .error fault) :
    fault.isValue = true ∨ fault.isValue = false ∧ Unshown shownRoom ms := by
  induction ms with
  | nil => cases h
  | cons m ms ih =>
      rw [readStatuses_cons] at h
      split at h
      · rename_i status hstatus
        cases hrest : readStatuses shownRoom ms with
        | error fault' =>
            rw [hrest] at h
            cases h
            exact (ih hrest).imp_right fun ⟨hvalue, hunshown⟩ => ⟨hvalue, .later hstatus hunshown⟩
        | ok rest =>
            rw [hrest] at h
            cases h
      · rename_i hnone
        cases h
        by_cases hheight : m.2.height ≤ shownRoom
        · exact .inl (notStatus_of_le hheight)
        · have hdeep := Nat.not_le.1 hheight
          exact .inr ⟨notStatus_of_lt hdeep, .here hnone hdeep⟩

theorem texts_merge_iff {base ms : List (RawText × Json)} (hbase : Texts base)
    (hdistinct : Json.Distinct ms) : Texts (merge base ms) ↔ Texts ms := by
  constructor
  · -- What was put over the default entries is found among them, so it is a text like all others.
    intro h m hm
    have hfind : Json.find? m.1 (merge base ms) = some m.2 := by
      unfold merge
      rw [Json.find?_foldl_setMember hdistinct, Json.find?_of_mem hdistinct hm]
      rfl
    obtain ⟨m', hm', hvalue⟩ := Json.mem_of_find? hfind
    rw [← hvalue]
    exact h m' hm'
  · intro h
    unfold merge
    induction ms generalizing base with
    | nil => exact hbase
    | cons m ms ih =>
        obtain ⟨-, hrest⟩ := List.nodup_cons.1 hdistinct
        refine ih ?_ hrest fun m hm => h m (List.mem_cons_of_mem _ hm)
        exact Json.forall_mem_setMember (P := fun j => ∃ s, j = .str s) (h m List.mem_cons_self)
          hbase

/-- Every name has the value that the text gives it, and its default value otherwise. -/
def Overlaid (base : List (RawText × RawText)) (ms : List (RawText × Json))
    (table : List (RawText × RawText)) : Prop :=
  ∀ name, (lookup? table name).map Json.str =
    (Json.find? name ms).or ((lookup? base name).map Json.str)

theorem find?_textMembers (table : List (RawText × RawText)) (name : RawText) :
    Json.find? name (textMembers table) = (lookup? table name).map Json.str := by
  induction table with
  | nil => rfl
  | cons e table ih =>
      obtain ⟨k, v⟩ := e
      by_cases hk : k = name
      · simp [textMembers, Json.find?, lookup?, hk]
      · have hfind : Json.find? name (textMembers ((k, v) :: table)) =
            Json.find? name (textMembers table) := by
          simp [textMembers, Json.find?, hk]
        have hlookup : lookup? ((k, v) :: table) name = lookup? table name := by
          simp [lookup?, hk]
        rw [hfind, hlookup, ih]

theorem overlaid_of_merge {base table : List (RawText × RawText)} {ms : List (RawText × Json)}
    (hdistinct : Json.Distinct ms) (h : merge (textMembers base) ms = textMembers table) :
    Overlaid base ms table := by
  intro name
  rw [← find?_textMembers, ← find?_textMembers, ← h]
  exact Json.find?_foldl_setMember hdistinct name

/-- No default entry gets lost. -/
theorem Overlaid.present {base table : List (RawText × RawText)} {ms : List (RawText × Json)}
    (h : Overlaid base ms table) {name : RawText} (hname : name ∈ base.map (·.1)) :
    ∃ value, lookup? table name = some value := by
  obtain ⟨value, hvalue⟩ := Option.isSome_iff_exists.1 (lookup?_isSome_iff.2 hname)
  have hlookup := h name
  rw [hvalue] at hlookup
  cases htable : lookup? table name with
  | some value => exact ⟨value, rfl⟩
  | none =>
      rw [htable] at hlookup
      cases hgiven : Json.find? name ms <;> rw [hgiven] at hlookup <;> cases hlookup

/-! ## Loading -/

/-- A source with other texts of tables. -/
def Source.given (s : Source) (endpoints creation statuses : String) : Source :=
  { s with endpoints := .str endpoints, creation := .str creation, statuses := .str statuses }

/-- Everything but the tables is as it should be. -/
structure Source.Sound (s : Source) : Prop where
  platform : ∃ p, readPlatform s [] [] = Checked.ok p
  extensions : ∃ items extensions, itemsOf s.extensions = .ok items ∧
    textsOf items = .ok extensions
  documents : ∀ extensions, ∃ rules, readDocumentRules s extensions = Checked.ok rules
  naming : ∃ naming, readNaming s = Checked.ok naming

section

variable {s : Source} {es cs : List (RawText × Json)}

theorem of_readPlatform {p : Platform} (h : readPlatform s es cs = Checked.ok p) :
    es = textMembers p.endpoints ∧ cs = textMembers p.creation := by
  rcases Checked.ap_eq_ok h with ⟨f₄, parameters, h₄, hparameters, rfl⟩
  rcases Checked.ap_eq_ok h₄ with ⟨f₃, paths, h₃, hpaths, rfl⟩
  rcases Checked.ap_eq_ok h₃ with ⟨f₂, timeout, h₂, -, rfl⟩
  rcases Checked.ap_eq_ok h₂ with ⟨f₁, token, h₁, -, rfl⟩
  rcases Checked.map_eq_ok h₁ with ⟨url, -, rfl⟩
  exact ⟨readTexts_eq_ok (Checked.under_eq_ok hpaths),
    readTexts_eq_ok (Checked.under_eq_ok hparameters)⟩

theorem readPlatform_of_texts (h : ∃ p, readPlatform s [] [] = Checked.ok p) (hes : Texts es)
    (hcs : Texts cs) : ∃ p, readPlatform s es cs = Checked.ok p := by
  obtain ⟨p, h⟩ := h
  obtain ⟨paths, hpaths⟩ := readTexts_of_texts hes
  obtain ⟨parameters, hparameters⟩ := readTexts_of_texts hcs
  rcases Checked.ap_eq_ok h with ⟨f₄, -, h₄, -, -⟩
  rcases Checked.ap_eq_ok h₄ with ⟨f₃, -, h₃, -, -⟩
  unfold readPlatform
  rw [hpaths, hparameters]
  exact ⟨f₃ paths parameters,
    congrArg (fun x => Checked.ap (Checked.ap x (Checked.ok paths)) (Checked.ok parameters)) h₃⟩

/-- What is left to do once the texts of all tables are parsed. -/
def Source.finish (s : Source) (attempts : Int) (statuses : Json)
    (es cs : List (RawText × Json)) : Except SourceFault Settings := do
  let platform ← ofChecked (readPlatform s es cs)
  let statuses ← readStatuses s.shownRoom (← membersOf statuses)
  let extensions ← textsOf (← itemsOf s.extensions)
  let documents ← ofChecked (readDocumentRules s extensions)
  let naming ← ofChecked (readNaming s)
  return { platform, statuses, documents, naming, attempts }

theorem load_of_parsed (s : Source) (attempts : Int) {endpoints creation statuses : String}
    {j : Json} (hj : statusMembers s.room (.str statuses) = .ok j)
    (hes : tableOver s.room Platform.defaultEndpoints (.str endpoints) = .ok es)
    (hcs : tableOver s.room Platform.defaultCreation (.str creation) = .ok cs) :
    (s.given endpoints creation statuses).load attempts = s.finish attempts j es cs := by
  unfold Source.load Source.given
  simp only [hj, hes, hcs]
  rfl

theorem finish_of_nameless (attempts : Int) {ms : List (RawText × Json)} {p : Platform}
    {fault : SourceFault} (hp : readPlatform s es cs = Checked.ok p)
    (h : readStatuses s.shownRoom ms = .error fault) :
    s.finish attempts (.obj ms) es cs = .error fault := by
  unfold Source.finish
  rw [hp]
  show (readStatuses s.shownRoom ms >>= fun statuses => _) = _
  rw [h]
  rfl

/-- Behind readable tables, nothing stops a sound source. -/
theorem finish_of_sound (hsound : s.Sound) (attempts : Int) (codes : List (RawText × Status))
    {p : Platform} (hp : readPlatform s es cs = Checked.ok p) :
    ∃ settings, s.finish attempts (.obj (statusMembersOf codes)) es cs = .ok settings ∧
      settings.platform = p ∧ settings.statuses = codes := by
  obtain ⟨items, extensions, hitems, hextensions⟩ := hsound.extensions
  obtain ⟨rules, hrules⟩ := hsound.documents extensions
  obtain ⟨naming, hnaming⟩ := hsound.naming
  have hcodes : readStatuses s.shownRoom (statusMembersOf codes) = .ok codes :=
    readStatuses_eq_ok_iff.2 rfl
  refine ⟨⟨p, codes, rules, naming, attempts⟩, ?_, rfl, rfl⟩
  unfold Source.finish membersOf
  simp only [hp, hitems]
  -- Only what the tables do not decide is left, and the source is sound in that.
  show (readStatuses s.shownRoom (statusMembersOf codes) >>= fun statuses =>
    textsOf items >>= fun extensions =>
    ofChecked (readDocumentRules s extensions) >>= fun documents =>
      ofChecked (readNaming s) >>= fun naming => _) = _
  rw [hcodes, hextensions]
  show (ofChecked (readDocumentRules s extensions) >>= fun documents =>
      ofChecked (readNaming s) >>= fun naming => _) = _
  rw [hrules, hnaming]
  rfl

end

/-! ## Outcomes -/

/-- The first thing that is wrong is a table that is no object, or something that is nested too
deeply. The table of statuses is parsed first and looked at last. -/
inductive Astray (s : Source) (endpoints creation statuses : String) : Prop
  | depth (h : Deep s.room statuses) : Astray s endpoints creation statuses
  | endpoints (hstatuses : Parsed s.room statuses)
      (h : Foreign s.room endpoints ∨ Deep s.room endpoints) :
      Astray s endpoints creation statuses
  | creation {ms : List (RawText × Json)} (hstatuses : Parsed s.room statuses)
      (hendpoints : Tabular s.room [] endpoints ms)
      (h : Foreign s.room creation ∨ Deep s.room creation) :
      Astray s endpoints creation statuses
  | statuses {ms ns : List (RawText × Json)} (hendpoints : Tabular s.room [] endpoints ms)
      (hpaths : Texts ms) (hcreation : Tabular s.room [] creation ns) (hparameters : Texts ns)
      (h : Foreign s.room statuses) : Astray s endpoints creation statuses
  | shown {ms ns ss : List (RawText × Json)} (hendpoints : Tabular s.room [] endpoints ms)
      (hpaths : Texts ms) (hcreation : Tabular s.room [] creation ns) (hparameters : Texts ns)
      (hstatuses : Tabular s.room (statusMembersOf defaultStatuses) statuses ss)
      (h : Unshown s.shownRoom ss) : Astray s endpoints creation statuses

/-- The first thing that is wrong is a text that is not JSON. -/
inductive Torn (s : Source) (endpoints creation statuses : String) : Prop
  | statuses (h : Broken s.room statuses) : Torn s endpoints creation statuses
  | endpoints (hstatuses : Parsed s.room statuses) (h : Broken s.room endpoints) :
      Torn s endpoints creation statuses
  | creation {ms : List (RawText × Json)} (hstatuses : Parsed s.room statuses)
      (hendpoints : Tabular s.room [] endpoints ms) (h : Broken s.room creation) :
      Torn s endpoints creation statuses

/-- All tables have the entries that they should have. -/
structure Readable (s : Source) (endpoints creation statuses : String) : Prop where
  endpoints : ∃ ms, Tabular s.room [] endpoints ms ∧ Texts ms
  creation : ∃ ns, Tabular s.room [] creation ns ∧ Texts ns
  statuses : ∃ codes,
    Tabular s.room (statusMembersOf defaultStatuses) statuses (statusMembersOf codes)

/-- Settings have what the texts of the tables give, and the default where they give nothing. -/
structure Complete (s : Source) (endpoints creation statuses : String) (settings : Settings) :
    Prop where
  endpoints : ∃ ms, Tabular s.room [] endpoints ms ∧
    Overlaid Platform.defaultEndpoints ms settings.platform.endpoints
  creation : ∃ ns, Tabular s.room [] creation ns ∧
    Overlaid Platform.defaultCreation ns settings.platform.creation
  statuses : statuses = "" ∧ settings.statuses = defaultStatuses ∨
    Json.parse s.room statuses = .ok (.obj (statusMembersOf settings.statuses))

/-- What loading comes to. -/
inductive Outcome (s : Source) (endpoints creation statuses : String) :
    Except SourceFault Settings → Prop
  | refused {fault : SourceFault} (h : fault.isValue = true) :
      Outcome s endpoints creation statuses (.error fault)
  | astray {fault : SourceFault} (hother : fault.isValue = false)
      (h : Astray s endpoints creation statuses) :
      Outcome s endpoints creation statuses (.error fault)
  | loaded {settings : Settings} (hreadable : Readable s endpoints creation statuses)
      (h : Complete s endpoints creation statuses settings) :
      Outcome s endpoints creation statuses (.ok settings)

theorem statusMembersOf_injective : Function.Injective statusMembersOf := by
  intro a b h
  have ha : readStatuses 0 (statusMembersOf a) = .ok a := readStatuses_eq_ok_iff.2 rfl
  have hb : readStatuses 0 (statusMembersOf a) = .ok b := readStatuses_eq_ok_iff.2 h
  rw [ha] at hb
  exact Except.ok.inj hb

section

variable {s : Source} {endpoints creation statuses : String}

theorem Tabular.texts_merge_iff {room : Nat} {text : String} {ms : List (RawText × Json)}
    (base : List (RawText × RawText)) (h : Tabular room [] text ms) :
    Texts (merge (textMembers base) ms) ↔ Texts ms :=
  Settings.texts_merge_iff (texts_textMembers base) (h.distinct List.nodup_nil)

/-- Tables of texts make a platform out of a sound source. -/
theorem readPlatform_of_tabular (hsound : s.Sound) {ms ns : List (RawText × Json)}
    (hendpoints : Tabular s.room [] endpoints ms) (hpaths : Texts ms)
    (hcreation : Tabular s.room [] creation ns) (hparameters : Texts ns) :
    ∃ p, readPlatform s (merge (textMembers Platform.defaultEndpoints) ms)
      (merge (textMembers Platform.defaultCreation) ns) = Checked.ok p :=
  readPlatform_of_texts hsound.platform
    ((hendpoints.texts_merge_iff Platform.defaultEndpoints).2 hpaths)
    ((hcreation.texts_merge_iff Platform.defaultCreation).2 hparameters)

theorem load_of_astray (hsound : s.Sound) (attempts : Int)
    (h : Astray s endpoints creation statuses) :
    ∃ fault, (s.given endpoints creation statuses).load attempts = .error fault ∧
      fault.isValue = false := by
  -- What each case says of the texts before the one at fault lets loading come as far as that.
  cases h with
  | depth h =>
      obtain ⟨message, hmessage⟩ := statusMembers_of_deep h
      refine ⟨.tooDeep message, ?_, rfl⟩
      unfold Source.load Source.given
      simp only [hmessage]
      rfl
  | endpoints hstatuses h =>
      obtain ⟨j, hj⟩ := statusMembers_of_parsed hstatuses
      obtain ⟨fault, hfault, hvalue⟩ := tableOver_of_unfit Platform.defaultEndpoints h
      refine ⟨fault, ?_, hvalue⟩
      unfold Source.load Source.given
      simp only [hj, hfault]
      rfl
  | creation hstatuses hendpoints h =>
      obtain ⟨j, hj⟩ := statusMembers_of_parsed hstatuses
      obtain ⟨fault, hfault, hvalue⟩ := tableOver_of_unfit Platform.defaultCreation h
      refine ⟨fault, ?_, hvalue⟩
      unfold Source.load Source.given
      simp only [hj, tableOver_of_tabular _ hendpoints, hfault]
      rfl
  | statuses hendpoints hpaths hcreation hparameters h =>
      obtain ⟨j, hj, hmembers⟩ := statusMembers_of_foreign h
      obtain ⟨p, hp⟩ := readPlatform_of_tabular hsound hendpoints hpaths hcreation hparameters
      refine ⟨.notObject j.sort, ?_, rfl⟩
      rw [load_of_parsed s attempts hj (tableOver_of_tabular _ hendpoints)
        (tableOver_of_tabular _ hcreation)]
      unfold Source.finish
      rw [hp, hmembers]
      rfl
  | shown hendpoints hpaths hcreation hparameters hstatuses h =>
      obtain ⟨p, hp⟩ := readPlatform_of_tabular hsound hendpoints hpaths hcreation hparameters
      obtain ⟨fault, hfault, hvalue⟩ := readStatuses_of_unshown h
      refine ⟨fault, ?_, hvalue⟩
      rw [load_of_parsed s attempts (statusMembers_of_tabular hstatuses)
        (tableOver_of_tabular _ hendpoints) (tableOver_of_tabular _ hcreation)]
      exact finish_of_nameless attempts hp hfault

theorem load_of_readable (hsound : s.Sound) (attempts : Int)
    (h : Readable s endpoints creation statuses) :
    ∃ settings, (s.given endpoints creation statuses).load attempts = .ok settings := by
  obtain ⟨ms, hendpoints, hpaths⟩ := h.endpoints
  obtain ⟨ns, hcreation, hparameters⟩ := h.creation
  obtain ⟨codes, hstatuses⟩ := h.statuses
  obtain ⟨p, hp⟩ := readPlatform_of_tabular hsound hendpoints hpaths hcreation hparameters
  obtain ⟨settings, hload, -⟩ := finish_of_sound hsound attempts codes hp
  refine ⟨settings, ?_⟩
  rw [load_of_parsed s attempts (statusMembers_of_tabular hstatuses)
    (tableOver_of_tabular _ hendpoints) (tableOver_of_tabular _ hcreation)]
  exact hload

/-- Settings that were loaded come from tables with the entries that they should have. -/
theorem complete_of_finish {ms ns : List (RawText × Json)} {codes : List (RawText × Status)}
    {settings : Settings} (hendpoints : Tabular s.room [] endpoints ms)
    (hcreation : Tabular s.room [] creation ns)
    (hstatuses : Tabular s.room (statusMembersOf defaultStatuses) statuses (statusMembersOf codes))
    (hpaths : merge (textMembers Platform.defaultEndpoints) ms
      = textMembers settings.platform.endpoints)
    (hparameters : merge (textMembers Platform.defaultCreation) ns
      = textMembers settings.platform.creation)
    (hcodes : settings.statuses = codes) : Complete s endpoints creation statuses settings where
  endpoints := ⟨ms, hendpoints, overlaid_of_merge (hendpoints.distinct List.nodup_nil) hpaths⟩
  creation := ⟨ns, hcreation, overlaid_of_merge (hcreation.distinct List.nodup_nil) hparameters⟩
  statuses := by
    subst hcodes
    -- The statuses are known by their members only: those of the default, or those parsed.
    generalize hms : statusMembersOf settings.statuses = ms at hstatuses
    cases hstatuses with
    | blank => exact .inl ⟨rfl, statusMembersOf_injective hms⟩
    | object h => exact .inr (hms ▸ h)

/-- A text that is not JSON ends the loading with a fault of a value. -/
theorem load_of_torn (attempts : Int) (h : Torn s endpoints creation statuses) :
    ∃ fault, (s.given endpoints creation statuses).load attempts = .error fault ∧
      fault.isValue = true := by
  unfold Source.load Source.given
  cases h with
  | statuses h =>
      obtain ⟨fault, hfault, hvalue⟩ := statusMembers_of_broken h
      refine ⟨fault, ?_, hvalue⟩
      simp only [hfault]
      rfl
  | endpoints hstatuses h =>
      obtain ⟨j, hj⟩ := statusMembers_of_parsed hstatuses
      obtain ⟨fault, hfault, hvalue⟩ := tableOver_of_broken Platform.defaultEndpoints h
      refine ⟨fault, ?_, hvalue⟩
      simp only [hj, hfault]
      rfl
  | creation hstatuses hendpoints h =>
      obtain ⟨j, hj⟩ := statusMembers_of_parsed hstatuses
      obtain ⟨fault, hfault, hvalue⟩ := tableOver_of_broken Platform.defaultCreation h
      refine ⟨fault, ?_, hvalue⟩
      simp only [hj, tableOver_of_tabular _ hendpoints, hfault]
      rfl

/-- With all texts parsed and both tables of the platform at hand, what is left are their values and
the statuses. -/
theorem finish_outcome (hsound : s.Sound) (attempts : Int) {ms ns : List (RawText × Json)}
    (hendpoints : Tabular s.room [] endpoints ms) (hcreation : Tabular s.room [] creation ns)
    (hstatuses : Parsed s.room statuses) :
    Outcome s endpoints creation statuses
      ((s.given endpoints creation statuses).load attempts) := by
  obtain ⟨j, hj⟩ := statusMembers_of_parsed hstatuses
  have hload := load_of_parsed s attempts hj (tableOver_of_tabular _ hendpoints)
    (tableOver_of_tabular _ hcreation)
  cases hp : readPlatform s (merge (textMembers Platform.defaultEndpoints) ms)
      (merge (textMembers Platform.defaultCreation) ns) with
  | error faults =>
      rw [hload, Source.finish, hp]
      exact .refused rfl
  | ok p =>
      -- Only texts are read into the tables of a platform, so all entries given are texts.
      obtain ⟨hpaths, hparameters⟩ := of_readPlatform hp
      have hms : Texts ms := (hendpoints.texts_merge_iff _).1 (hpaths ▸ texts_textMembers _)
      have hns : Texts ns := (hcreation.texts_merge_iff _).1 (hparameters ▸ texts_textMembers _)
      -- The statuses were parsed before anything else, but only now they have to be a table.
      rcases hstatuses.tabular_or_foreign (statusMembersOf defaultStatuses) with
        ⟨ss, htable⟩ | hforeign
      · rw [statusMembers_of_tabular htable] at hj
        cases hj
        cases hcodes : readStatuses s.shownRoom ss with
        | error fault =>
            rw [hload, finish_of_nameless attempts hp hcodes]
            rcases readStatuses_eq_error hcodes with hvalue | ⟨hother, hunshown⟩
            · exact .refused hvalue
            · exact .astray hother (.shown hendpoints hms hcreation hns htable hunshown)
        | ok codes =>
            have hss : ss = statusMembersOf codes := readStatuses_eq_ok_iff.1 hcodes
            subst hss
            obtain ⟨settings, hfinish, rfl, hstored⟩ := finish_of_sound hsound attempts codes hp
            rw [hload, hfinish]
            exact .loaded ⟨⟨ms, hendpoints, hms⟩, ⟨ns, hcreation, hns⟩, ⟨codes, htable⟩⟩
              (complete_of_finish hendpoints hcreation htable hpaths hparameters hstored)
      · have hastray : Astray s endpoints creation statuses :=
          .statuses hendpoints hms hcreation hns hforeign
        obtain ⟨fault, hfault, hother⟩ := load_of_astray hsound attempts hastray
        rw [hfault]
        exact .astray hother hastray

/-- Loading from a source that is sound but for its tables. The texts are parsed one by one, first
that of the statuses, and the first that cannot be read decides. -/
theorem load_outcome (hsound : s.Sound) (attempts : Int) (endpoints creation statuses : String) :
    Outcome s endpoints creation statuses
      ((s.given endpoints creation statuses).load attempts) := by
  have refused : Torn s endpoints creation statuses → Outcome s endpoints creation statuses
      ((s.given endpoints creation statuses).load attempts) := by
    intro h
    obtain ⟨fault, hload, hvalue⟩ := load_of_torn attempts h
    rw [hload]
    exact .refused hvalue
  have astray : Astray s endpoints creation statuses → Outcome s endpoints creation statuses
      ((s.given endpoints creation statuses).load attempts) := by
    intro h
    obtain ⟨fault, hload, hother⟩ := load_of_astray hsound attempts h
    rw [hload]
    exact .astray hother h
  rcases parsed_or_broken_or_deep s.room statuses with hstatuses | hbroken | hdeep
  · rcases tabular_or_foreign_or_broken_or_deep s.room [] endpoints with
      ⟨ms, hendpoints⟩ | hforeign | hbroken | hdeep
    · rcases tabular_or_foreign_or_broken_or_deep s.room [] creation with
        ⟨ns, hcreation⟩ | hforeign | hbroken | hdeep
      · exact finish_outcome hsound attempts hendpoints hcreation hstatuses
      · exact astray (.creation hstatuses hendpoints (.inl hforeign))
      · exact refused (.creation hstatuses hendpoints hbroken)
      · exact astray (.creation hstatuses hendpoints (.inr hdeep))
    · exact astray (.endpoints hstatuses (.inl hforeign))
    · exact refused (.endpoints hstatuses hbroken)
    · exact astray (.endpoints hstatuses (.inr hdeep))
  · exact refused (.statuses hbroken)
  · exact astray (.depth hdeep)

end

end Settings
end TenderDesk
