/-!
# Utf8 — reading octets as characters, whatever they are

`decode` reads every sequence of octets. Where it is not UTF-8, the longest start of a character
that has no end stands for one replacement character.
-/

namespace TenderDesk
namespace Text
namespace Utf8

/-- How many octets follow a first octet, and the least and the greatest second octet. -/
def following? (b : Nat) : Option (Nat × Nat × Nat) :=
  if b < 0xC2 then none
  else if b ≤ 0xDF then some (1, 0x80, 0xBF)
  else if b = 0xE0 then some (2, 0xA0, 0xBF)
  else if b = 0xED then some (2, 0x80, 0x9F)
  else if b ≤ 0xEF then some (2, 0x80, 0xBF)
  else if b = 0xF0 then some (3, 0x90, 0xBF)
  else if b ≤ 0xF3 then some (3, 0x80, 0xBF)
  else if b = 0xF4 then some (3, 0x80, 0x8F)
  else none

/-- Takes up to `n` further octets of a character; the first of them lies between two bounds. -/
def takeFurther : (n low high : Nat) → List UInt8 → List Nat
  | 0, _, _, _ | _, _, _, [] => []
  | n + 1, low, high, b :: bs =>
      if low ≤ b.toNat && b.toNat ≤ high then b.toNat :: takeFurther n 0x80 0xBF bs else []

/-- The bits of the first octet of a character with `n` further octets. -/
def leadBits (n b : Nat) : Nat :=
  b % Nat.pow 2 (6 - n)

def replacement : Char := '\ufffd'

/-- The character at the start of octets that do not start with ASCII, and how many octets
behind the first belong to it. -/
def decodeFirst (b : UInt8) (bs : List UInt8) : Char × Nat :=
  match following? b.toNat with
  | none => (replacement, 0)
  | some (n, low, high) =>
      let further := takeFurther n low high bs
      if further.length = n then
        (Char.ofNat (further.foldl (fun acc x => acc * 64 + x % 64) (leadBits n b.toNat)), n)
      else (replacement, further.length)

def decode : List UInt8 → List Char
  | [] => []
  | b :: bs =>
      if b.toNat < 0x80 then Char.ofNat b.toNat :: decode bs
      else
        let (c, n) := decodeFirst b bs
        c :: decode (bs.drop n)
  termination_by bs => bs.length
  decreasing_by all_goals simp_wf; try omega

end Utf8
end Text
end TenderDesk
