import TenderDesk.Text.Base64

/-!
# Base64 — what is encoded is decoded to itself

* A symbol of the alphabet has its number back (`symbolValue?_symbol`), is no padding and is ASCII.
* `decodeFrom?_group`: four symbols are read as the three octets they were made from.
* `decode?_encode`: the decoder passes nothing over in an encoded text, so it is an inverse.
-/

namespace TenderDesk
namespace Text
namespace Base64

/-! ## Symbols -/

theorem symbol_facts : ∀ n : Fin 64,
    symbolValue? (symbol n) = some n.val ∧ symbol n ≠ '=' ∧ (symbol n).toNat < 0x80 := by
  decide

section

variable {n : Nat}

theorem symbolValue?_symbol (h : n < 64) : symbolValue? (symbol n) = some n :=
  (symbol_facts ⟨n, h⟩).1

theorem symbol_ne_pad (h : n < 64) : symbol n ≠ '=' :=
  (symbol_facts ⟨n, h⟩).2.1

theorem symbol_ascii (h : n < 64) : (symbol n).toNat < 0x80 :=
  (symbol_facts ⟨n, h⟩).2.2

end

/-! ## One symbol at each place -/

section

variable {n pads bits : Nat} {rest : List Char}

theorem decodeFrom?_start (h : n < 64) :
    decodeFrom? .start pads (symbol n :: rest) = decodeFrom? (.second n) 0 rest := by
  simp [decodeFrom?, symbol_ne_pad h, symbolValue?_symbol h]

theorem decodeFrom?_second (h : n < 64) :
    decodeFrom? (.second bits) pads (symbol n :: rest) =
      (decodeFrom? (.third (n % 16)) 0 rest).map (UInt8.ofNat (bits * 4 + n / 16) :: ·) := by
  simp [decodeFrom?, symbol_ne_pad h, symbolValue?_symbol h]

theorem decodeFrom?_third (h : n < 64) :
    decodeFrom? (.third bits) pads (symbol n :: rest) =
      (decodeFrom? (.fourth (n % 4)) 0 rest).map (UInt8.ofNat (bits * 16 + n / 4) :: ·) := by
  simp [decodeFrom?, symbol_ne_pad h, symbolValue?_symbol h]

theorem decodeFrom?_fourth (h : n < 64) :
    decodeFrom? (.fourth bits) pads (symbol n :: rest) =
      (decodeFrom? .start 0 rest).map (UInt8.ofNat (bits * 64 + n) :: ·) := by
  simp [decodeFrom?, symbol_ne_pad h, symbolValue?_symbol h]

end

/-! ## Groups -/

section

variable {a b c : UInt8} {pads : Nat} {rest : List Char}

/-- The first octet of a group lies in the first symbol and the upper bits of the second. -/
theorem octet_first (a : UInt8) {m : Nat} (h : m < 16) :
    UInt8.ofNat (a.toNat / 4 * 4 + (a.toNat % 4 * 16 + m) / 16) = a := by
  have hvalue : a.toNat / 4 * 4 + (a.toNat % 4 * 16 + m) / 16 = a.toNat := by omega
  rw [hvalue, UInt8.ofNat_toNat]

theorem octet_second (b : UInt8) {l m : Nat} (h : m < 4) :
    UInt8.ofNat ((l * 16 + b.toNat / 16) % 16 * 16 + (b.toNat % 16 * 4 + m) / 4) = b := by
  have hbound : b.toNat < 256 := b.toNat_lt
  have hvalue : (l * 16 + b.toNat / 16) % 16 * 16 + (b.toNat % 16 * 4 + m) / 4 = b.toNat := by
    omega
  rw [hvalue, UInt8.ofNat_toNat]

theorem octet_third (c : UInt8) {l : Nat} :
    UInt8.ofNat ((l * 4 + c.toNat / 64) % 4 * 64 + c.toNat % 64) = c := by
  have hbound : c.toNat < 256 := c.toNat_lt
  have hvalue : (l * 4 + c.toNat / 64) % 4 * 64 + c.toNat % 64 = c.toNat := by omega
  rw [hvalue, UInt8.ofNat_toNat]

theorem decodeFrom?_group :
    decodeFrom? .start pads
        (symbol (a.toNat / 4) :: symbol (a.toNat % 4 * 16 + b.toNat / 16)
          :: symbol (b.toNat % 16 * 4 + c.toNat / 64) :: symbol (c.toNat % 64) :: rest) =
      (decodeFrom? .start 0 rest).map (a :: b :: c :: ·) := by
  have ha : a.toNat < 256 := a.toNat_lt
  have hb : b.toNat < 256 := b.toNat_lt
  have hc : c.toNat < 256 := c.toNat_lt
  rw [decodeFrom?_start (by omega), decodeFrom?_second (by omega), decodeFrom?_third (by omega),
    decodeFrom?_fourth (by omega), octet_first a (by omega), octet_second b (by omega),
    octet_third c]
  simp [Option.map_map, Function.comp_def]

/-- Two octets are told by three symbols and one padding sign. -/
theorem decodeFrom?_pair :
    decodeFrom? .start pads (encode [a, b]) = some [a, b] := by
  have ha : a.toNat < 256 := a.toNat_lt
  have hb : b.toNat < 256 := b.toNat_lt
  have hsecond : UInt8.ofNat ((a.toNat % 4 * 16 + b.toNat / 16) % 16 * 16 +
      b.toNat % 16 * 4 / 4) = b := octet_second b (m := 0) (by omega)
  rw [encode, decodeFrom?_start (by omega), decodeFrom?_second (by omega),
    decodeFrom?_third (by omega), octet_first a (by omega), hsecond]
  simp [decodeFrom?, Place.completedBy]

/-- One octet is told by two symbols and two padding signs. -/
theorem decodeFrom?_single :
    decodeFrom? .start pads (encode [a]) = some [a] := by
  have ha : a.toNat < 256 := a.toNat_lt
  have hfirst : UInt8.ofNat (a.toNat / 4 * 4 + a.toNat % 4 * 16 / 16) = a :=
    octet_first a (m := 0) (by omega)
  rw [encode, decodeFrom?_start (by omega), decodeFrom?_second (by omega), hfirst]
  simp [decodeFrom?, Place.completedBy]

end

/-! ## Whole texts -/

theorem decodeFrom?_encode (pads : Nat) (bytes : List UInt8) :
    decodeFrom? .start pads (encode bytes) = some bytes := by
  induction bytes using encode.induct generalizing pads with
  | case1 => rfl
  | case2 a => exact decodeFrom?_single
  | case3 a b => exact decodeFrom?_pair
  | case4 a b c rest ih =>
      rw [encode, decodeFrom?_group, ih 0]
      rfl

theorem encode_ascii (bytes : List UInt8) : ∀ c ∈ encode bytes, c.toNat < 0x80 := by
  induction bytes using encode.induct with
  | case1 => simp [encode]
  | case2 a =>
      have ha : a.toNat < 256 := a.toNat_lt
      simp only [encode, List.forall_mem_cons]
      refine ⟨symbol_ascii (by omega), symbol_ascii (by omega), by decide, by decide, by simp⟩
  | case3 a b =>
      have ha : a.toNat < 256 := a.toNat_lt
      have hb : b.toNat < 256 := b.toNat_lt
      simp only [encode, List.forall_mem_cons]
      refine ⟨symbol_ascii (by omega), symbol_ascii (by omega), symbol_ascii (by omega),
        by decide, by simp⟩
  | case4 a b c rest ih =>
      have ha : a.toNat < 256 := a.toNat_lt
      have hb : b.toNat < 256 := b.toNat_lt
      have hc : c.toNat < 256 := c.toNat_lt
      simp only [encode, List.forall_mem_cons]
      exact ⟨symbol_ascii (by omega), symbol_ascii (by omega), symbol_ascii (by omega),
        symbol_ascii (by omega), ih⟩

theorem decode?_encode (bytes : List UInt8) : decode? (encode bytes) = some bytes := by
  have hascii : (encode bytes).all (fun c => c.toNat < 0x80) = true := by
    simpa using encode_ascii bytes
  simp [decode?, hascii, decodeFrom?_encode]

theorem encode_injective : Function.Injective encode := by
  intro bytes bytes' h
  have hdecoded : some bytes = some bytes' := by
    rw [← decode?_encode bytes, h, decode?_encode bytes']
  exact Option.some.inj hdecoded

end Base64
end Text
end TenderDesk
