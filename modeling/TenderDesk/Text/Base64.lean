/-!
# Base64 — octets as text, safe in addresses

* `Base64.encode` writes groups of four characters, filling the last one up with `=`.
* `Base64.decode?` is lenient: `+` and `/` are read as well, any other character outside the
  alphabet is passed over, and what follows a completed group with padding is not looked at.
-/

namespace TenderDesk
namespace Text
namespace Base64

/-- The character of a number below 64. -/
def symbol (n : Nat) : Char :=
  if n < 26 then Char.ofNat ('A'.toNat + n)
  else if n < 52 then Char.ofNat ('a'.toNat + (n - 26))
  else if n < 62 then Char.ofNat ('0'.toNat + (n - 52))
  else if n == 62 then '-'
  else '_'

/-- The number of a character of the alphabet. -/
def symbolValue? (c : Char) : Option Nat :=
  if 'A' ≤ c && c ≤ 'Z' then some (c.toNat - 'A'.toNat)
  else if 'a' ≤ c && c ≤ 'z' then some (c.toNat - 'a'.toNat + 26)
  else if '0' ≤ c && c ≤ '9' then some (c.toNat - '0'.toNat + 52)
  else if c == '-' || c == '+' then some 62
  else if c == '_' || c == '/' then some 63
  else none

def encode : List UInt8 → List Char
  | [] => []
  | [a] =>
      [symbol (a.toNat / 4), symbol (a.toNat % 4 * 16), '=', '=']
  | [a, b] =>
      [symbol (a.toNat / 4), symbol (a.toNat % 4 * 16 + b.toNat / 16),
       symbol (b.toNat % 16 * 4), '=']
  | a :: b :: c :: rest =>
      symbol (a.toNat / 4) :: symbol (a.toNat % 4 * 16 + b.toNat / 16)
        :: symbol (b.toNat % 16 * 4 + c.toNat / 64) :: symbol (c.toNat % 64) :: encode rest

/-- A place inside a group of four: how many characters of it were read, with the bits of the last
one that no octet holds yet. -/
inductive Place
  | start
  | second (bits : Nat)
  | third (bits : Nat)
  | fourth (bits : Nat)
  deriving DecidableEq, Repr

/-- Padding signs that complete a group at a place, those that came before counted. -/
def Place.completedBy (pads : Nat) : Place → Bool
  | .third _ => 2 ≤ pads
  | .fourth _ => 1 ≤ pads
  | _ => false

/-- Reads on from a place; `pads` counts the padding signs since the last character of the
alphabet. -/
def decodeFrom? : (place : Place) → (pads : Nat) → List Char → Option (List UInt8)
  | .start, _, [] => some []
  | _, _, [] => none
  | place, pads, c :: rest =>
      if c == '=' then
        if place.completedBy (pads + 1) then some []
        else
          match place with
          | .start | .second _ => decodeFrom? place pads rest
          | _ => decodeFrom? place (pads + 1) rest
      else
        match symbolValue? c with
        | none => decodeFrom? place pads rest
        | some n =>
            match place with
            | .start => decodeFrom? (.second n) 0 rest
            | .second bits =>
                (decodeFrom? (.third (n % 16)) 0 rest).map
                  (UInt8.ofNat (bits * 4 + n / 16) :: ·)
            | .third bits =>
                (decodeFrom? (.fourth (n % 4)) 0 rest).map
                  (UInt8.ofNat (bits * 16 + n / 4) :: ·)
            | .fourth bits =>
                (decodeFrom? .start 0 rest).map (UInt8.ofNat (bits * 64 + n) :: ·)

/-- The octets that an ASCII text denotes. -/
def decode? (cs : List Char) : Option (List UInt8) :=
  if cs.all fun c => c.toNat < 0x80 then decodeFrom? .start 0 cs else none

end Base64
end Text
end TenderDesk
