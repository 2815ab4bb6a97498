import TenderDesk.Document.Key
import TenderDesk.Proofs.Number.Reading
import TenderDesk.Proofs.Text.Base64

/-!
# Key — which documents their ids stand for

A label is read up to its first dash, and the minus sign of a file id is a dash.

* `ofId?_id`: an id is read as the key that it was made from when the file id is a natural number.
* `ofId?_id_of_neg`: the id of a key with a negative file id is not read at all.
* `id_injective`: keys that differ have ids that differ, whatever their sign.
-/

namespace TenderDesk

namespace Text

/-! ## Octets of texts -/

theorem toList_loop (bytes : ByteArray) (i : Nat) (read : List UInt8) :
    ByteArray.toList.loop bytes i read = read.reverse ++ bytes.data.toList.drop i := by
  induction h : bytes.size - i generalizing i read with
  | zero =>
      have hi : ¬i < bytes.size := by omega
      have hend : bytes.data.toList.drop i = [] := List.drop_eq_nil_of_le (Nat.le_of_not_lt hi)
      rw [ByteArray.toList.loop.eq_def, if_neg hi, hend, List.append_nil]
  | succ n ih =>
      have hi : i < bytes.size := by omega
      have hget : bytes.data.toList.drop i = bytes.get! i :: bytes.data.toList.drop (i + 1) := by
        have hlength : i < bytes.data.toList.length := hi
        have hitem : bytes.get! i = bytes.data.toList[i] := getElem!_pos bytes.data i hi
        rw [hitem]
        exact List.drop_eq_getElem_cons hi
      rw [ByteArray.toList.loop.eq_def, if_pos hi, ih (i + 1) _ (by omega), hget,
        List.reverse_cons, List.append_assoc, List.singleton_append]

theorem toList_octets (bytes : ByteArray) : bytes.toList = bytes.data.toList := by
  rw [ByteArray.toList, toList_loop]
  rfl

theorem ofOctets_toUTF8 (s : String) : (⟨s.toUTF8.toList.toArray⟩ : ByteArray) = s.toUTF8 := by
  rw [toList_octets]

theorem fromUTF8?_toUTF8 (s : String) : String.fromUTF8? s.toUTF8 = some s := by
  have hvalid : s.toUTF8.IsValidUTF8 := s.isValidUTF8
  rw [String.fromUTF8?, dif_pos hvalid]
  rfl

end Text

namespace Document
namespace Key

/-! ## Labels -/

section

variable {file name : List Char} {s : String}

/-- A label without a dash in its file id is split behind that id, whatever the name holds. -/
theorem ofLabel?_of_toList (h : s.toList = file ++ '-' :: name) (hfile : '-' ∉ file) :
    ofLabel? s =
      match Number.readInteger (String.ofList file) with
      | .ok n => some ⟨n, String.ofList name⟩
      | .error _ => none := by
  have hne : ∀ c ∈ file, (c != '-') = true := by
    intro c hc
    simpa using fun heq : c = '-' => hfile (heq ▸ hc)
  have htake : s.toList.takeWhile (· != '-') = file := by
    rw [h, List.takeWhile_append_of_pos hne]
    simp
  have hdrop : s.toList.drop file.length = '-' :: name := by
    rw [h, List.drop_left]
  cases hread : Number.readInteger (String.ofList file) <;>
    simp only [ofLabel?, htake, hdrop, hread]

end

section

variable {n : Nat} {name : String}

theorem dash_notMem_digits (n : Nat) : '-' ∉ Text.digits n := by
  intro h
  have hdigit : Text.isDigit '-' = true := Text.isDigit_of_mem_digits h
  revert hdigit
  decide

theorem repr_toList (n : Nat) : (Nat.repr n).toList = Text.digits n := by
  rw [Nat.repr_eq_ofList_toDigits, String.toList_ofList, Text.digits]

theorem label_toList (k : Key) : k.label.toList = k.file.repr.toList ++ '-' :: k.name.toList := by
  have hdash : "-".toList = ['-'] := rfl
  have hshown : toString k.file = k.file.repr := rfl
  rw [label, hshown, String.toList_append, String.toList_append, hdash, List.append_assoc,
    List.singleton_append]

theorem label_ofNat : (Key.mk n name).label.toList = Text.digits n ++ '-' :: name.toList := by
  have hshown : (Int.repr n).toList = Text.digits n := repr_toList n
  rw [label_toList, hshown]

theorem label_negSucc :
    (Key.mk (.negSucc n) name).label.toList =
      '-' :: (Text.digits (n + 1) ++ '-' :: name.toList) := by
  have hshown : (Int.repr (.negSucc n)).toList = '-' :: Text.digits (n + 1) := by
    show ("-" ++ Nat.repr (n + 1)).toList = _
    rw [String.toList_append, repr_toList]
    rfl
  rw [label_toList, hshown, List.cons_append]

theorem ofLabel?_label (h : n < 10 ^ Number.maxDigits) :
    ofLabel? (Key.mk n name).label = some ⟨n, name⟩ := by
  rw [ofLabel?_of_toList label_ofNat (dash_notMem_digits n), Number.readInteger_digits h]
  simp

theorem ofLabel?_label_negSucc : ofLabel? (Key.mk (.negSucc n) name).label = none := by
  have hsplit : (Key.mk (.negSucc n) name).label.toList =
      [] ++ '-' :: (Text.digits (n + 1) ++ '-' :: name.toList) := label_negSucc
  rw [ofLabel?_of_toList hsplit (by simp)]
  rfl

end

/-! ## Ids -/

theorem ofId?_id_eq (k : Key) : ofId? k.id = ofLabel? k.label := by
  have hlist : k.id.toList = Text.Base64.encode k.label.toUTF8.toList := by simp [id]
  have hascii : (Text.Base64.encode k.label.toUTF8.toList).all (fun c => c.toNat < 128) = true := by
    simpa using Text.Base64.encode_ascii k.label.toUTF8.toList
  simp only [ofId?, hlist, hascii, if_true, Text.Base64.decode?_encode, Option.bind_eq_bind,
    Option.bind_some, Text.ofOctets_toUTF8, Text.fromUTF8?_toUTF8]

theorem ofId?_id {k : Key} (hsign : 0 ≤ k.file) (hsize : k.file.natAbs < 10 ^ Number.maxDigits) :
    ofId? k.id = some k := by
  obtain ⟨file, name⟩ := k
  obtain ⟨n, rfl⟩ := Int.eq_ofNat_of_zero_le hsign
  rw [ofId?_id_eq]
  exact ofLabel?_label hsize

theorem ofId?_id_of_neg {k : Key} (hsign : k.file < 0) : ofId? k.id = none := by
  obtain ⟨file, name⟩ := k
  obtain ⟨n, rfl⟩ := Int.eq_negSucc_of_lt_zero hsign
  rw [ofId?_id_eq]
  exact ofLabel?_label_negSucc

theorem id_eq_iff_label {k l : Key} : k.id = l.id ↔ k.label = l.label := by
  constructor
  · intro h
    have hencoded : Text.Base64.encode k.label.toUTF8.toList =
        Text.Base64.encode l.label.toUTF8.toList := String.ofList_injective h
    have hoctets : k.label.toUTF8.toList = l.label.toUTF8.toList :=
      Text.Base64.encode_injective hencoded
    have hbytes : k.label.toUTF8 = l.label.toUTF8 := by
      rw [← Text.ofOctets_toUTF8 k.label, hoctets, Text.ofOctets_toUTF8]
    have hread : some k.label = some l.label := by
      rw [← Text.fromUTF8?_toUTF8 k.label, hbytes, Text.fromUTF8?_toUTF8]
    exact Option.some.inj hread
  · intro h
    rw [id, id, h]

/-- Both parts around a dash are known when the first parts hold no dash. -/
theorem append_dash_inj {file file' name name' : List Char} (hfile : '-' ∉ file)
    (hfile' : '-' ∉ file') (h : file ++ '-' :: name = file' ++ '-' :: name') :
    file = file' ∧ name = name' := by
  induction file generalizing file' with
  | nil =>
      cases file' with
      | nil => exact ⟨rfl, by simpa using h⟩
      | cons c rest =>
          have hdash : '-' = c := (List.cons.inj h).1
          exact absurd (hdash ▸ List.mem_cons_self) hfile'
  | cons c rest ih =>
      cases file' with
      | nil =>
          have hdash : c = '-' := (List.cons.inj h).1
          exact absurd (hdash ▸ List.mem_cons_self) hfile
      | cons c' rest' =>
          have hhead : c = c' := (List.cons.inj h).1
          have htail : rest ++ '-' :: name = rest' ++ '-' :: name' := (List.cons.inj h).2
          obtain ⟨hrest, hname⟩ := ih (fun hc => hfile (List.mem_cons_of_mem _ hc))
            (fun hc => hfile' (List.mem_cons_of_mem _ hc)) htail
          exact ⟨by rw [hhead, hrest], hname⟩

/-- The digits of a natural number do not start with a dash, and the text of a negative one does. -/
theorem label_sign {m n : Nat} {name name' : String} :
    (Key.mk m name).label ≠ (Key.mk (.negSucc n) name').label := by
  intro h
  have hlists := congrArg String.toList h
  rw [label_ofNat, label_negSucc] at hlists
  obtain ⟨c, rest, hdigits⟩ := List.exists_cons_of_ne_nil (Text.digits_ne_nil m)
  rw [hdigits] at hlists
  have hdash : c = '-' := (List.cons.inj hlists).1
  exact dash_notMem_digits m (hdigits ▸ hdash ▸ List.mem_cons_self)

theorem label_injective : Function.Injective label := by
  rintro ⟨file, name⟩ ⟨file', name'⟩ h
  have hlists := congrArg String.toList h
  cases file with
  | ofNat m =>
      cases file' with
      | ofNat n =>
          have hlists : Text.digits m ++ '-' :: name.toList =
              Text.digits n ++ '-' :: name'.toList :=
            label_ofNat.symm.trans (hlists.trans label_ofNat)
          obtain ⟨hdigits, hname⟩ :=
            append_dash_inj (dash_notMem_digits m) (dash_notMem_digits n) hlists
          rw [Text.digits_injective hdigits, String.toList_injective hname]
      | negSucc n => exact absurd h label_sign
  | negSucc m =>
      cases file' with
      | ofNat n => exact absurd h.symm label_sign
      | negSucc n =>
          rw [label_negSucc, label_negSucc] at hlists
          obtain ⟨hdigits, hname⟩ := append_dash_inj (dash_notMem_digits (m + 1))
            (dash_notMem_digits (n + 1)) (List.cons.inj hlists).2
          have hnumber : m + 1 = n + 1 := Text.digits_injective hdigits
          rw [Nat.succ.inj hnumber, String.toList_injective hname]

theorem id_injective : Function.Injective id := by
  intro k l h
  exact label_injective (id_eq_iff_label.1 h)

end Key
end Document
end TenderDesk
