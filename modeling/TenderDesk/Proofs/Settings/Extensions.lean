import TenderDesk.Proofs.Settings.Source
import TenderDesk.Proofs.Text.LowerCase

/-!
# Extensions — which extensions loaded settings allow

* `Source.Lists` says that a text is given as an extension.
* `mem_extensions_of_load`: settings allow what is given, trimmed and in lower case, unless nothing
  but white space is given.
-/

namespace TenderDesk
namespace Settings

open Schema

/-- A text that is given as an extension: an item of a list, a character of a text, or a name in an
object. -/
def Source.Lists (s : Source) (given : String) : Prop :=
  ∃ items, itemsOf s.extensions = .ok items ∧ Json.str given ∈ items

theorem mem_normalize_iff {extensions : List String} {ext : String} :
    ext ∈ normalize extensions ↔
      ∃ given ∈ extensions, Text.strip given ≠ "" ∧ Text.lower (Text.strip given) = ext := by
  have hblank : ∀ s : String, (!s.isEmpty) = true ↔ s ≠ "" := by simp
  simp only [normalize, List.mem_eraseDups, List.mem_filter, List.mem_map, hblank]
  constructor
  · rintro ⟨⟨given, hgiven, rfl⟩, hne⟩
    exact ⟨given, hgiven, mt Text.lower_eq_empty_iff.2 hne, rfl⟩
  · rintro ⟨given, hgiven, hne, rfl⟩
    exact ⟨⟨given, hgiven, rfl⟩, mt Text.lower_eq_empty_iff.1 hne⟩

/-- The texts in a list are its items of characters alone. -/
theorem mem_textsOf_iff {items : List Json} {texts : List String} (h : textsOf items = .ok texts)
    {given : String} : given ∈ texts ↔ Json.str given ∈ items := by
  induction items generalizing texts with
  | nil =>
      cases h
      simp
  | cons j items ih =>
      cases j with
      | str s =>
          cases s with
          | whole s =>
              rcases of_bind_eq_ok h with ⟨rest, hrest, h⟩
              cases h
              simp [ih hrest]
          | torn s => simp [ih h]
      | _ => cases h

theorem extensions_of_readDocumentRules {s : Source} {extensions : List String}
    {rules : DocumentRules} (h : readDocumentRules s extensions = Checked.ok rules) :
    rules.extensions = normalize extensions := by
  rcases Checked.ap_eq_ok h with ⟨f, total, hf, -, rfl⟩
  rcases Checked.map_eq_ok hf with ⟨size, -, rfl⟩
  rfl

section

variable {s : Source} {attempts : Int} {settings : Settings}

/-- Settings allow what is given, trimmed and in lower case, unless it is blank. -/
theorem mem_extensions_of_load (h : s.load attempts = .ok settings) {ext : String} :
    ext ∈ settings.documents.extensions ↔
      ∃ given, s.Lists given ∧ Text.strip given ≠ "" ∧ Text.lower (Text.strip given) = ext := by
  rcases documents_of_load h with ⟨items, extensions, hitems, htexts, hrules⟩
  have hlists : ∀ given, s.Lists given ↔ given ∈ extensions := by
    intro given
    simp [Source.Lists, hitems, mem_textsOf_iff htexts]
  simp only [extensions_of_readDocumentRules hrules, mem_normalize_iff, hlists]

/-- No extension is empty, so a name without an extension is never let in. -/
theorem empty_not_mem_extensions (h : s.load attempts = .ok settings) :
    "" ∉ settings.documents.extensions := by
  rw [mem_extensions_of_load h]
  rintro ⟨given, -, hne, hempty⟩
  exact hne (Text.lower_eq_empty_iff.1 hempty)

end

end Settings
end TenderDesk
