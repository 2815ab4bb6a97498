import TenderDesk.Proofs.Document.Check
import TenderDesk.Proofs.Settings.Extensions

/-!
# Extension — which names get past the check of their extension

* `LastPart`, `IsStem` and `Plain` tell, without any scan, what may stand before and behind the last
  dot of a name that has an extension.
* `extension_of_stem` and `extension_of_bare` tell the extension of such a name and of one that has
  dots in other places only; `extension_of_recased` leaves the case of ASCII letters aside.
* `files_judged`: under loaded settings, which files pass.
-/

namespace TenderDesk
namespace Document

open Settings

/-! ## Paths -/

/-- `last` is what stands behind the last slash of a path, and all of it where there is none. -/
inductive LastPart : (path last : List Char) → Prop
  | whole {path : List Char} (h : '/' ∉ path) : LastPart path path
  | inside (folder : List Char) {last : List Char} (h : '/' ∉ last) :
      LastPart (folder ++ '/' :: last) last

section

variable {path last rest : List Char}

theorem LastPart.slashless (h : LastPart path last) : '/' ∉ last := by
  cases h with
  | whole h => exact h
  | inside folder h => exact h

theorem LastPart.baseName_eq (h : LastPart path last) : baseName path = last := by
  cases h with
  | whole h => exact baseName_of_plain h
  | inside folder h => exact baseName_of_folder h

theorem lastPart_baseName (path : List Char) : LastPart path (baseName path) := by
  by_cases hslash : '/' ∈ path
  · obtain ⟨folder, last, rfl, hlast⟩ := exists_behind_last hslash
    rw [baseName_of_folder hlast]
    exact .inside folder hlast
  · rw [baseName_of_plain hslash]
    exact .whole hslash

theorem LastPart.append (h : LastPart path last) (hrest : '/' ∉ rest) :
    LastPart (path ++ rest) (last ++ rest) := by
  have hslashless : '/' ∉ last ++ rest := by
    simpa [not_or] using ⟨h.slashless, hrest⟩
  cases h with
  | whole h => exact .whole hslashless
  | inside folder h =>
      rw [List.append_assoc, List.cons_append]
      exact .inside folder hslashless

/-- The end of the last part is the end of the path. -/
theorem LastPart.split (h : LastPart path (last ++ rest)) :
    ∃ front, path = front ++ rest ∧ LastPart front last := by
  have hlast : '/' ∉ last := fun hmem => h.slashless (List.mem_append_left rest hmem)
  cases h with
  | whole h => exact ⟨last, rfl, .whole hlast⟩
  | inside folder h => exact ⟨folder ++ '/' :: last, by simp, .inside folder hlast⟩

end

/-! ## Names -/

/-- A text without dots and slashes. -/
structure Plain (s : String) : Prop where
  dotless : '.' ∉ s.toList
  slashless : '/' ∉ s.toList

/-- What stands before an extension: in its last part there is more than dots. -/
def IsStem (stem : String) : Prop :=
  ∃ last, LastPart stem.toList last ∧ ∃ c ∈ last, c ≠ '.'

theorem isStem_of_plain {stem : String} (hne : stem ≠ "") (h : Plain stem) : IsStem stem := by
  have hcs : stem.toList ≠ [] := by simpa using hne
  obtain ⟨c, hc⟩ := List.exists_mem_of_ne_nil _ hcs
  refine ⟨stem.toList, .whole h.slashless, c, hc, ?_⟩
  rintro rfl
  exact h.dotless hc

section

variable {name stem ext : String}

theorem toList_dotted (stem ext : String) :
    (stem ++ "." ++ ext).toList = stem.toList ++ '.' :: ext.toList := by
  simp

theorem extends_of_stem (hstem : IsStem stem) (hext : Plain ext) :
    Extends (baseName (stem ++ "." ++ ext).toList) ext.toList := by
  obtain ⟨last, hlast, hmore⟩ := hstem
  obtain ⟨dots, c, rest, rfl, hc⟩ := exists_dots hmore
  have hslash : '/' ∉ '.' :: ext.toList := by simpa using hext.slashless
  rw [toList_dotted, (hlast.append hslash).baseName_eq, List.append_assoc, List.cons_append]
  exact .intro dots rest hc hext.dotless

theorem stem_of_extends {ext : List Char} (h : Extends (baseName name.toList) ext) :
    ∃ stem, IsStem stem ∧ Plain (String.ofList ext) ∧ name = stem ++ "." ++ String.ofList ext := by
  have hpart := lastPart_baseName name.toList
  generalize baseName name.toList = base at h hpart
  cases h with
  | intro dots stem hc hext =>
      rename_i c
      have hbase : List.replicate dots '.' ++ c :: (stem ++ '.' :: ext) =
          (List.replicate dots '.' ++ c :: stem) ++ '.' :: ext := by simp
      rw [hbase] at hpart
      obtain ⟨front, hname, hfront⟩ := hpart.split
      have hslash : '/' ∉ ext := fun hmem =>
        hpart.slashless (List.mem_append_right _ (List.mem_cons_of_mem _ hmem))
      refine ⟨String.ofList front, ⟨_, by simpa using hfront, c, by simp, hc⟩,
        ⟨by simpa using hext, by simpa using hslash⟩, ?_⟩
      apply String.toList_injective
      rw [hname, toList_dotted]
      simp

theorem extension_of_stem (hstem : IsStem stem) (hext : Plain ext) :
    extension (stem ++ "." ++ ext) = Text.lower ext := by
  rw [extension_of_extends (extends_of_stem hstem hext), String.ofList_toList]

/-- A name with an extension, or one that counts as none. -/
theorem extension_cases (name : String) :
    (∃ stem ext, name = stem ++ "." ++ ext ∧ IsStem stem ∧ Plain ext) ∨ extension name = "" := by
  by_cases h : ∃ ext, Extends (baseName name.toList) ext
  · obtain ⟨ext, hext⟩ := h
    obtain ⟨stem, hstem, hplain, hname⟩ := stem_of_extends hext
    exact .inl ⟨stem, _, hname, hstem, hplain⟩
  · exact .inr (extension_of_unextended fun ext hext => h ⟨ext, hext⟩)

/-- Dots of folders and dots in front of the last part start no extension. -/
theorem extension_of_bare {dots : Nat} {rest : List Char}
    (hpart : LastPart name.toList (List.replicate dots '.' ++ rest)) (hrest : '.' ∉ rest) :
    extension name = "" := by
  apply extension_of_unextended
  intro ext hext
  rw [hpart.baseName_eq] at hext
  have hhead : ∀ c ∈ rest.head?, c ≠ '.' := by
    rintro c hc rfl
    exact hrest (List.mem_of_mem_head? hc)
  have hkept := dropWhile_dots dots hhead
  generalize List.replicate dots '.' ++ rest = base at hext hkept
  cases hext with
  | intro dots stem hc hext =>
      -- The dot in front of `ext` would be one of those that `rest` does not have.
      rw [dropWhile_dots dots (by simpa using hc)] at hkept
      apply hrest
      rw [← hkept]
      simp

end

/-- As no allowed extension is empty, a name without an extension has none that is allowed. -/
theorem extension_mem_iff {allowed : List String} (hempty : "" ∉ allowed) {name : String} :
    extension name ∈ allowed ↔ ∃ stem ext, name = stem ++ "." ++ ext ∧ IsStem stem ∧ Plain ext ∧
      Text.lower ext ∈ allowed := by
  constructor
  · intro hmem
    rcases extension_cases name with ⟨stem, ext, rfl, hstem, hext⟩ | hnone
    · rw [extension_of_stem hstem hext] at hmem
      exact ⟨stem, ext, rfl, hstem, hext, hmem⟩
    · rw [hnone] at hmem
      exact absurd hmem hempty
  · rintro ⟨stem, ext, rfl, hstem, hext, hmem⟩
    rwa [extension_of_stem hstem hext]

/-! ## Upper and lower case -/

theorem baseName_map (cs : List Char) :
    baseName (cs.map Char.toLower) = (baseName cs).map Char.toLower := by
  have hslash : (· != '/') ∘ Char.toLower = (· != '/') :=
    funext fun c => congrArg (!·) (Text.toLower_beq rfl c)
  simp only [baseName, ← List.map_reverse, List.takeWhile_map, hslash]

theorem afterLastDot?_map (cs : List Char) :
    afterLastDot? (cs.map Char.toLower) = (afterLastDot? cs).map (List.map Char.toLower) := by
  have hdot : (· != '.') ∘ Char.toLower = (· != '.') :=
    funext fun c => congrArg (!·) (Text.toLower_beq rfl c)
  have hcontains : (cs.map Char.toLower).contains '.' = cs.contains '.' := by
    rw [Bool.eq_iff_iff, List.contains_iff_mem, List.contains_iff_mem,
      Text.mem_map_toLower_iff rfl]
  unfold afterLastDot?
  rw [hcontains]
  split
  · simp only [← List.map_reverse, List.takeWhile_map, hdot, Option.map_some]
  · rfl

theorem extension_of_recased {a b : String} (h : Text.Recased a b) : extension a = extension b := by
  have hdot : (· == '.') ∘ Char.toLower = (· == '.') := funext (Text.toLower_beq rfl)
  have hpart : ∀ cs : List Char,
      ((afterLastDot? ((baseName cs).dropWhile (· == '.'))).getD []).map Char.toLower =
        (afterLastDot? ((baseName (cs.map Char.toLower)).dropWhile (· == '.'))).getD [] := by
    intro cs
    rw [baseName_map, List.dropWhile_map, hdot, afterLastDot?_map]
    cases afterLastDot? ((baseName cs).dropWhile (· == '.')) <;> rfl
  unfold extension
  apply Text.lower_of_recased
  unfold Text.Recased
  rw [String.toList_ofList, String.toList_ofList, hpart, hpart, h]

/-! ## Files -/

theorem checkFile_of_extension_eq (rules : DocumentRules) {a b : String} (size : Int)
    (h : extension a = extension b) : checkFile rules a size = checkFile rules b size := by
  unfold checkFile
  rw [h]

/-- An extension that is given is allowed, in whatever case it was given and a name has it. -/
theorem extension_of_listed {s : Source} {attempts : Int} {settings : Settings}
    (h : s.load attempts = .ok settings) {given stem ext : String} (hgiven : s.Lists given)
    (hne : Text.strip given ≠ "") (hplain : Plain (Text.strip given))
    (hext : Text.Recased (Text.strip given) ext) (hstem : IsStem stem) :
    extension (stem ++ "." ++ ext) ∈ settings.documents.extensions := by
  have hplain' : Plain ext :=
    ⟨mt (hext.mem_iff rfl).2 hplain.dotless, mt (hext.mem_iff rfl).2 hplain.slashless⟩
  rw [extension_of_stem hstem hplain', mem_extensions_of_load h]
  exact ⟨given, hgiven, hne, Text.lower_of_recased hext⟩

/-- Under loaded settings a file passes exactly when it is not too large and its name ends with an
extension whose lower-case form is allowed. What the stem is has no part in the answer; dots of
folders and dots in front of the last part make no extension; names that differ in the case of ASCII
letters get the same answer. What is given as an extension gets through in any such case, however it
was written and whatever white space was around it. -/
theorem files_judged {s : Source} {attempts : Int} {settings : Settings}
    (h : s.load attempts = .ok settings) :
    let rules := settings.documents
    (∀ name size, checkFile rules name size = .ok () ↔
      size ≤ rules.maxSize ∧ ∃ stem ext, name = stem ++ "." ++ ext ∧ IsStem stem ∧ Plain ext ∧
        Text.lower ext ∈ rules.extensions) ∧
    (∀ stem stem' ext size, IsStem stem → IsStem stem' → Plain ext →
      checkFile rules (stem ++ "." ++ ext) size = checkFile rules (stem' ++ "." ++ ext) size) ∧
    (∀ name dots rest size, LastPart name.toList (List.replicate dots '.' ++ rest) → '.' ∉ rest →
      checkFile rules name size = .error (.extensionRefused (sorted rules.extensions))) ∧
    (∀ name name' size, Text.Recased name name' →
      checkFile rules name size = checkFile rules name' size) ∧
    (∀ given stem ext size, s.Lists given → Text.strip given ≠ "" → Plain (Text.strip given) →
      Text.Recased (Text.strip given) ext → IsStem stem → size ≤ rules.maxSize →
        checkFile rules (stem ++ "." ++ ext) size = .ok ()) ∧
    ∀ stem, stem ≠ "" → Plain stem → IsStem stem := by
  intro rules
  have hempty : "" ∉ rules.extensions := empty_not_mem_extensions h
  refine ⟨?accepted, ?stems, ?bare, ?recased, ?listed, fun stem => isStem_of_plain⟩
  case accepted =>
    intro name size
    rw [checkFile_eq_ok_iff, extension_mem_iff hempty, and_comm]
  case stems =>
    intro stem stem' ext size hstem hstem' hext
    apply checkFile_of_extension_eq
    rw [extension_of_stem hstem hext, extension_of_stem hstem' hext]
  case bare =>
    intro name dots rest size hpart hrest
    apply checkFile_of_refused
    rw [extension_of_bare hpart hrest]
    exact hempty
  case recased =>
    intro name name' size hname
    exact checkFile_of_extension_eq rules size (extension_of_recased hname)
  case listed =>
    intro given stem ext size hgiven hne hplain hext hstem hsize
    exact checkFile_eq_ok_iff.2 ⟨extension_of_listed h hgiven hne hplain hext hstem, hsize⟩

/-- Extensions in both cases, one of them between blanks, and a blank one. -/
def mixedSource : Source where
  baseUrl := .str "http://remote.test"
  extensions := .arr [.str " PdF\n", .str "DOCX", .str " "]

/-- A name with dots in all places passes for its end, unless the file is too large; a folder's
extension and one behind leading dots only do not count. -/
theorem files_judged_mixed :
    ∃ settings, mixedSource.load 3 = .ok settings ∧
      let rules := settings.documents
      let refusal := Failure.extensionRefused (sorted rules.extensions)
      checkFile rules "v1.0/..plan.exe.pDf" 5 = .ok () ∧
      checkFile rules "v1.0/..plan.exe.pDf" (rules.maxSize + 1) ≠ .ok () ∧
      checkFile rules "plan.pdf/DOCX" 5 = .error refusal ∧
      checkFile rules "..docx" 5 = .error refusal := by
  let settings : Settings :=
    { platform := {
        baseUrl := "http://remote.test"
        endpoints := Platform.defaultEndpoints
        creation := Platform.defaultCreation }
      statuses := defaultStatuses
      documents := {
        extensions := ["pdf", "docx"]
        maxSize := 300 * 1024 * 1024
        maxTotal := 1024 * 1024 * 1024 } }
  have hload : mixedSource.load 3 = .ok settings := by decide +kernel
  obtain ⟨haccepted, -, hbare, -, hlisted, -⟩ := files_judged hload
  refine ⟨settings, hload, ?_, ?_, ?_, ?_⟩
  · have hgiven : mixedSource.Lists " PdF\n" := ⟨_, rfl, by simp⟩
    have hplain : Plain (Text.strip " PdF\n") := ⟨by decide +kernel, by decide +kernel⟩
    have hext : Text.Recased (Text.strip " PdF\n") "pDf" := by
      unfold Text.Recased
      decide +kernel
    have hstem : IsStem "v1.0/..plan.exe" :=
      ⟨"..plan.exe".toList, .inside "v1.0".toList (by decide), 'p', by decide, by decide⟩
    have hname : "v1.0/..plan.exe.pDf" = "v1.0/..plan.exe" ++ "." ++ "pDf" := by decide
    rw [hname]
    exact hlisted " PdF\n" _ _ 5 hgiven (by decide +kernel) hplain hext hstem (by decide)
  · intro h
    have hsize : settings.documents.maxSize + 1 ≤ settings.documents.maxSize :=
      ((haccepted _ _).1 h).1
    omega
  · exact hbare _ 0 "DOCX".toList 5 (.inside "plan.pdf".toList (by decide)) (by decide)
  · exact hbare _ 2 "docx".toList 5 (.whole (by decide)) (by decide)

end Document
end TenderDesk
