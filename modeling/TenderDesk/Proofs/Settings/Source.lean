import TenderDesk.Proofs.Sourcing.Extent
import TenderDesk.Settings.Source
import TenderDesk.Sourcing.Wire

/-!
# Source — what loaded settings always have

The tables of the platform are put over default ones, and reading a table keeps its names. So the
address of every request is known, whatever the table of endpoints holds (`urlOf_of_load`).
`stages_of_load` tells what was read on the way to settings.
-/

namespace TenderDesk
namespace Settings

open Schema

/-- Two stages in a row succeed only if both do. -/
theorem of_bind_eq_ok {α β : Type} {x : Except SourceFault α} {f : α → Except SourceFault β} {b : β}
    (h : x >>= f = .ok b) : ∃ a, x = .ok a ∧ f a = .ok b := by
  cases x with
  | error fault => cases h
  | ok a => exact ⟨a, rfl, h⟩

theorem of_ofChecked {α : Type} {x : Checked α} {a : α} (h : ofChecked x = .ok a) :
    x = Checked.ok a := by
  cases x with
  | error faults => cases h
  | ok b =>
      cases h
      rfl

/-! ## Names of tables -/

section

variable {α : Type} {name : RawText}

theorem lookup?_isSome_iff {table : List (RawText × α)} :
    (lookup? table name).isSome ↔ name ∈ table.map (·.1) := by
  simp [lookup?, List.find?_isSome]

theorem mem_names_setMember (key : RawText) (value : Json) {ms : List (RawText × Json)}
    (h : name ∈ ms.map (·.1)) : name ∈ (Json.setMember key value ms).map (·.1) := by
  induction ms with
  | nil => cases h
  | cons m ms ih =>
      rcases m with ⟨k, v⟩
      simp only [List.map_cons, List.mem_cons] at h
      by_cases hk : k = key
      · simpa [Json.setMember, hk] using h
      · rcases h with rfl | hrest
        · simp [Json.setMember, hk]
        · simp only [Json.setMember, if_neg hk, List.map_cons, List.mem_cons]
          exact .inr (ih hrest)

/-- Entries that are put over others hide none of their names. -/
theorem mem_names_merge {base entries : List (RawText × Json)} (h : name ∈ base.map (·.1)) :
    name ∈ (merge base entries).map (·.1) := by
  unfold merge
  induction entries generalizing base with
  | nil => exact h
  | cons entry entries ih => exact ih (mem_names_setMember entry.1 entry.2 h)

theorem mem_names_tableOver {room : Nat} {base : List (RawText × RawText)} {given : Json}
    {ms : List (RawText × Json)} (h : tableOver room base given = .ok ms)
    (hname : name ∈ base.map (·.1)) : name ∈ ms.map (·.1) := by
  have hbase : name ∈ (base.map fun e => (e.1, Json.str e.2)).map (·.1) := by
    simpa [Function.comp_def] using hname
  unfold tableOver at h
  split at h
  · cases h
    exact hbase
  · rcases of_bind_eq_ok h with ⟨j, -, h⟩
    rcases of_bind_eq_ok h with ⟨entries, -, h⟩
    cases h
    exact mem_names_merge hbase

/-- Reading the values of members keeps their names. -/
theorem names_of_readMembers {read : Json → Checked α} {ms : List (RawText × Json)}
    {values : List (RawText × α)}
    (h : Checked.ofList (Codec.readMembers read ms) = Checked.ok values) :
    values.map (·.1) = ms.map (·.1) := by
  induction ms generalizing values with
  | nil =>
      cases h
      rfl
  | cons m ms ih =>
      rcases Checked.ap_eq_ok h with ⟨f, rest, hf, hrest, rfl⟩
      rcases Checked.map_eq_ok hf with ⟨entry, hentry, rfl⟩
      rcases Checked.map_eq_ok (Checked.under_eq_ok hentry) with ⟨a, -, rfl⟩
      simp [ih hrest]

end

/-! ## Loading -/

theorem endpoints_of_readPlatform {s : Source} {endpoints creation : List (RawText × Json)}
    {p : Platform} (h : readPlatform s endpoints creation = Checked.ok p) :
    p.endpoints.map (·.1) = endpoints.map (·.1) := by
  rcases Checked.ap_eq_ok h with ⟨f₄, parameters, h₄, -, rfl⟩
  rcases Checked.ap_eq_ok h₄ with ⟨f₃, paths, h₃, hpaths, rfl⟩
  rcases Checked.ap_eq_ok h₃ with ⟨f₂, timeout, h₂, -, rfl⟩
  rcases Checked.ap_eq_ok h₂ with ⟨f₁, token, h₁, -, rfl⟩
  rcases Checked.map_eq_ok h₁ with ⟨url, -, rfl⟩
  exact names_of_readMembers (Checked.under_eq_ok hpaths)

/-- The stages that loading goes through before there are settings. -/
theorem stages_of_load {s : Source} {attempts : Int} {settings : Settings}
    (h : s.load attempts = .ok settings) : ∃ endpoints creation items extensions,
      tableOver s.room Platform.defaultEndpoints s.endpoints = .ok endpoints ∧
        readPlatform s endpoints creation = Checked.ok settings.platform ∧
        itemsOf s.extensions = .ok items ∧ textsOf items = .ok extensions ∧
        readDocumentRules s extensions = Checked.ok settings.documents := by
  rcases of_bind_eq_ok h with ⟨statuses, -, h⟩
  rcases of_bind_eq_ok h with ⟨endpoints, hendpoints, h⟩
  rcases of_bind_eq_ok h with ⟨creation, -, h⟩
  rcases of_bind_eq_ok h with ⟨platform, hplatform, h⟩
  rcases of_bind_eq_ok h with ⟨members, -, h⟩
  rcases of_bind_eq_ok h with ⟨codes, -, h⟩
  rcases of_bind_eq_ok h with ⟨items, hitems, h⟩
  rcases of_bind_eq_ok h with ⟨extensions, hextensions, h⟩
  rcases of_bind_eq_ok h with ⟨documents, hdocuments, h⟩
  rcases of_bind_eq_ok h with ⟨naming, -, h⟩
  cases h
  exact ⟨endpoints, creation, items, extensions, hendpoints, of_ofChecked hplatform, hitems,
    hextensions, of_ofChecked hdocuments⟩

theorem platform_of_load {s : Source} {attempts : Int} {settings : Settings}
    (h : s.load attempts = .ok settings) : ∃ endpoints creation,
      tableOver s.room Platform.defaultEndpoints s.endpoints = .ok endpoints ∧
        readPlatform s endpoints creation = Checked.ok settings.platform := by
  rcases stages_of_load h with ⟨endpoints, creation, -, -, htable, hplatform, -⟩
  exact ⟨endpoints, creation, htable, hplatform⟩

theorem documents_of_load {s : Source} {attempts : Int} {settings : Settings}
    (h : s.load attempts = .ok settings) : ∃ items extensions,
      itemsOf s.extensions = .ok items ∧ textsOf items = .ok extensions ∧
        readDocumentRules s extensions = Checked.ok settings.documents := by
  rcases stages_of_load h with ⟨-, -, items, extensions, -, -, hdocuments⟩
  exact ⟨items, extensions, hdocuments⟩

/-- Loaded settings tell the address of everything that is done on the platform. -/
theorem urlOf_of_load {s : Source} {attempts : Int} {settings : Settings}
    (h : s.load attempts = .ok settings) (request : Sourcing.Request) :
    ∃ url, Sourcing.urlOf settings.platform request.endpoint = .ok url := by
  rcases platform_of_load h with ⟨endpoints, creation, htable, hplatform⟩
  have hdefault : ↑request.endpoint ∈ Platform.defaultEndpoints.map (·.1) := by
    cases request <;> simp [Sourcing.Request.endpoint, Platform.defaultEndpoints]
  have hname : ↑request.endpoint ∈ settings.platform.endpoints.map (·.1) := by
    rw [endpoints_of_readPlatform hplatform]
    exact mem_names_tableOver htable hdefault
  rcases Option.isSome_iff_exists.1 (lookup?_isSome_iff.2 hname) with ⟨path, hpath⟩
  unfold Sourcing.urlOf
  rw [hpath]
  exact ⟨_, rfl⟩

end Settings
end TenderDesk
