import TenderDesk.Proofs.Document.Key
import TenderDesk.Proofs.Sourcing.Extent

/-!
# Decoding — which texts are the ids of documents

* `Spells s k` says, without the decoder, that a text is an id of a key. Many texts may spell one
  key: the decoder passes over foreign characters, and numbers have more than one spelling.
* `ofId_eq_ok_iff`: the decoder reads exactly the keys that are spelled.
* `id_codec`: every key with a natural number is read back from its own id, every other text is
  either refused or read as such a key, and keys that differ have ids that differ.
-/

namespace TenderDesk

/-! ## Octets -/

namespace Text

theorem toUTF8_of_fromUTF8? {bytes : ByteArray} {s : String} (h : String.fromUTF8? bytes = some s) :
    s.toUTF8 = bytes := by
  unfold String.fromUTF8? at h
  split at h
  · cases h
    rfl
  · cases h

/-- Octets are read as a text exactly when they are the octets of that text. -/
theorem fromUTF8?_eq_some_iff {bytes : List UInt8} {s : String} :
    String.fromUTF8? ⟨bytes.toArray⟩ = some s ↔ bytes = s.toUTF8.toList := by
  constructor
  · intro h
    rw [toUTF8_of_fromUTF8? h, toList_octets]
  · rintro rfl
    rw [ofOctets_toUTF8, fromUTF8?_toUTF8]

end Text

/-! ## Signs -/

namespace Number

/-- The dash comes before the digits. -/
theorem ofNat_ne_dash {n : Nat} (hn : 48 ≤ n) : Char.ofNat n ≠ '-' := by
  intro heq
  have hnat : (Char.ofNat n).toNat = 45 := congrArg Char.toNat heq
  by_cases hvalid : n.isValidChar
  · rw [Char.ofNat, dif_pos hvalid] at hnat
    have hsame : n = 45 := hnat
    omega
  · rw [Char.ofNat, dif_neg hvalid] at hnat
    cases hnat

theorem asAscii_ne_dash {c : Char} (h : c ≠ '-') : asAscii c ≠ '-' := by
  unfold asAscii
  cases Text.decimal? c with
  | none => exact h
  | some d => exact ofNat_ne_dash (Nat.le_add_right 48 d)

theorem splitSign_of_dashless {cs : List Char} (h : '-' ∉ cs) : (splitSign cs).1 = false := by
  unfold splitSign
  split
  · exact absurd List.mem_cons_self h
  · rfl
  · rfl

theorem mem_of_mem_trimBy {p : Char → Bool} {cs : List Char} {c : Char}
    (h : c ∈ Text.trimBy p cs) : c ∈ cs := by
  have hback : c ∈ (cs.dropWhile p).reverse :=
    (List.dropWhile_suffix p).subset (List.mem_reverse.1 h)
  exact (List.dropWhile_suffix p).subset (List.mem_reverse.1 hback)

/-- A number that is read without a dash is a natural one, and short enough to be written again. -/
theorem of_readInteger_dashless {s : String} {i : Int} (h : readInteger s = .ok i)
    (hdash : '-' ∉ s.toList) : 0 ≤ i ∧ IsShort i := by
  have hbody : '-' ∉ (Text.trimBy Text.isBlank s.toList).map asAscii := by
    intro hmem
    rcases List.mem_map.1 hmem with ⟨c, hc, heq⟩
    have hne : c ≠ '-' := fun hc' => hdash (hc' ▸ mem_of_mem_trimBy hc)
    exact asAscii_ne_dash hne heq
  have hsign := splitSign_of_dashless hbody
  unfold readInteger at h
  cases hread : ungroup? (splitSign ((Text.trimBy Text.isBlank s.toList).map asAscii)).2 with
  | none => simp [hread] at h
  | some ds =>
      by_cases hlength : maxDigits < ds.length
      · simp [hread, hlength] at h
      · have hi : i = signed false (Text.digitsValue ds) := by
          simpa [hread, hlength, hsign] using h.symm
        have hshort := isShort_signed false (of_ungroup? hread).1 (Nat.le_of_not_lt hlength)
        rw [hi]
        exact ⟨by simp [signed], hshort⟩

end Number

namespace Document
namespace Key

/-! ## Labels -/

/-- A label names a file by a number without a dash, and what stands behind the first dash is the
name. -/
structure Labels (label : String) (k : Key) (file : String) : Prop where
  split : label = file ++ "-" ++ k.name
  dashless : '-' ∉ file.toList
  number : Number.readInteger file = .ok k.file

theorem Labels.toList {label file : String} {k : Key} (h : Labels label k file) :
    label.toList = file.toList ++ '-' :: k.name.toList := by
  have hdash : "-".toList = ['-'] := rfl
  simp [h.split, String.toList_append, hdash]

theorem ofLabel?_of_dashless {label : String} (h : '-' ∉ label.toList) : ofLabel? label = none := by
  have hall : label.toList.takeWhile (· != '-') = label.toList := by
    apply List.takeWhile_eq_self_iff.2
    intro c hc
    simpa using fun heq : c = '-' => h (heq ▸ hc)
  simp [ofLabel?, hall]

/-- A label is read as a key exactly when it names the file of that key and ends with its name. -/
theorem ofLabel?_eq_some_iff {label : String} {k : Key} :
    ofLabel? label = some k ↔ ∃ file, Labels label k file := by
  constructor
  · intro h
    by_cases hdash : '-' ∈ label.toList
    · rcases List.eq_append_cons_of_mem hdash with ⟨file, name, hsplit, hfile⟩
      rw [ofLabel?_of_toList hsplit hfile] at h
      cases hread : Number.readInteger (String.ofList file) with
      | error fault => simp [hread] at h
      | ok n =>
          have hk : (⟨n, String.ofList name⟩ : Key) = k := by simpa [hread] using h
          subst hk
          refine ⟨String.ofList file, ?_, by simpa using hfile, hread⟩
          apply String.toList_injective
          have hdash : "-".toList = ['-'] := rfl
          simp [hsplit, String.toList_append, hdash]
    · rw [ofLabel?_of_dashless hdash] at h
      cases h
  · rintro ⟨file, hlabels⟩
    rw [ofLabel?_of_toList hlabels.toList hlabels.dashless, String.ofList_toList, hlabels.number]
    simp

/-! ## Ids -/

/-- A text stands for the octets of a label of the key. -/
def Spells (s : String) (k : Key) : Prop :=
  ∃ label file, Text.Base64.decode? s.toList = some label.toUTF8.toList ∧ Labels label k file

theorem ofId?_eq_some_iff {s : String} {k : Key} : ofId? s = some k ↔ Spells s k := by
  unfold ofId? Spells
  by_cases hascii : s.toList.all fun c => c.toNat < 128
  · simp only [hascii, if_true, Option.bind_eq_bind, Option.bind_eq_some_iff,
      Text.fromUTF8?_eq_some_iff, ofLabel?_eq_some_iff]
    constructor
    · rintro ⟨bytes, hbytes, label, rfl, file, hlabels⟩
      exact ⟨label, file, hbytes, hlabels⟩
    · rintro ⟨label, file, hbytes, hlabels⟩
      exact ⟨_, hbytes, label, rfl, file, hlabels⟩
  · -- The decoder refuses other characters on its own account as well.
    have hnone : Text.Base64.decode? s.toList = none := if_neg hascii
    simp [hascii, hnone]

theorem ofId_eq_ok_iff {s : String} {k : Key} : ofId s = .ok k ↔ Spells s k := by
  rw [← ofId?_eq_some_iff]
  unfold ofId
  cases ofId? s <;> simp

theorem ofId_of_unspelled {s : String} (h : ∀ k, ¬Spells s k) :
    ofId s = .error (.documentIdMalformed s) := by
  have hnone : ofId? s = none := by
    apply Option.eq_none_iff_forall_ne_some.2
    exact fun k hk => h k (ofId?_eq_some_iff.1 hk)
  simp [ofId, hnone]

/-- No text spells a key with a negative file id, or with one that is too long to be written. -/
theorem Spells.natural {s : String} {k : Key} (h : Spells s k) :
    0 ≤ k.file ∧ Number.IsShort k.file := by
  rcases h with ⟨label, file, -, hlabels⟩
  exact Number.of_readInteger_dashless hlabels.number hlabels.dashless

/-- The id of a key spells that key. -/
theorem spells_id {k : Key} (hsign : 0 ≤ k.file) (hshort : Number.IsShort k.file) :
    Spells k.id k :=
  ofId?_eq_some_iff.1 (ofId?_id hsign hshort)

/-- The codec of document ids, both ways. A key with a natural number is read back from its id and
one with a negative number is refused; a text is read as a key exactly when it spells that key, and
then the id of this key is read as the same key again; different keys have different ids. -/
theorem id_codec :
    (∀ k : Key, Number.IsShort k.file →
      (0 ≤ k.file → ofId k.id = .ok k) ∧
      (k.file < 0 → ofId k.id = .error (.documentIdMalformed k.id))) ∧
    (∀ s : String,
      (∃ k, ofId s = .ok k ∧ Spells s k ∧ 0 ≤ k.file ∧ Number.IsShort k.file ∧
        ofId k.id = .ok k) ∨
      (ofId s = .error (.documentIdMalformed s) ∧ ∀ k, ¬Spells s k)) ∧
    ∀ k l : Key, k ≠ l → k.id ≠ l.id := by
  refine ⟨fun k hshort => ⟨?natural, ?negative⟩, fun s => ?texts, ?apart⟩
  case natural =>
    intro hsign
    exact ofId_eq_ok_iff.2 (spells_id hsign hshort)
  case negative =>
    intro hsign
    apply ofId_of_unspelled
    intro l hl
    have hnone : ofId? k.id = none := ofId?_id_of_neg hsign
    rw [ofId?_eq_some_iff.2 hl] at hnone
    cases hnone
  case texts =>
    by_cases hspelled : ∃ k, Spells s k
    · rcases hspelled with ⟨k, hk⟩
      have hid : Spells k.id k := spells_id hk.natural.1 hk.natural.2
      exact .inl ⟨k, ofId_eq_ok_iff.2 hk, hk, hk.natural.1, hk.natural.2, ofId_eq_ok_iff.2 hid⟩
    · have hunspelled : ∀ k, ¬Spells s k := fun k hk => hspelled ⟨k, hk⟩
      exact .inr ⟨ofId_of_unspelled hunspelled, hunspelled⟩
  case apart => exact fun k l hne hid => hne (id_injective hid)

/-- Two texts that differ in a sign and in padding spell one key. -/
example : ofId? "KzctYQ==" = some ⟨7, "a"⟩ ∧ ofId? "Ny1h" = some ⟨7, "a"⟩ := by
  decide +kernel

end Key
end Document
end TenderDesk
