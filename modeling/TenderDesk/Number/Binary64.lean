import TenderDesk.Text.Digit

/-!
# Binary64 — double precision numbers as exact data

The magnitude of a finite number is a natural number of the smallest subnormal, `2 ^ -1074`. So
rounding, comparing and printing are arithmetic on natural numbers.

* `Binary64.ofDecimal` rounds a decimal to the nearest double, ties to the even significand.
* `Binary64.shortest` finds the fewest decimal digits that read back, and of these the nearest.
* `Binary64.text` writes them: positional from `0.0001` up to below `10 ^ 16`, with an exponent of
  at least two digits elsewhere.
-/

namespace TenderDesk

inductive Binary64
  /-- The number `± units · 2 ^ -1074`. -/
  | finite (negative : Bool) (units : Nat)
  | infinite (negative : Bool)
  | nan
  deriving DecidableEq, Repr, Inhabited

namespace Binary64

/-- Units in one. -/
def one : Nat := Nat.pow 2 1074

/-- The least number of units that is out of range. -/
def limit : Nat := Nat.pow 2 2098

/-! ## Rounding -/

/-- The quotient rounded to the nearest natural number, ties to the even one. -/
def roundDiv (num den : Nat) : Nat :=
  let q := num / den
  let r := num % den
  if 2 * r < den then q
  else if den < 2 * r then q + 1
  else if q % 2 == 0 then q else q + 1

/-- Binary places of a magnitude that lie below its 53 leading ones. -/
def spare (units : Nat) : Nat :=
  units.log2 + 1 - 53

/-- The double nearest to `num / den` units. -/
def ofUnits (negative : Bool) (num den : Nat) : Binary64 :=
  let step := Nat.pow 2 (spare (num / den))
  let u := roundDiv num (den * step) * step
  if u < limit then .finite negative u else .infinite negative

/-- The double nearest to `± digits · 10 ^ exponent`. -/
def ofDecimal (negative : Bool) (ds : List Char) (exponent : Int) : Binary64 :=
  let ds := ds.dropWhile (· == '0')
  let lead := exponent + ds.length
  if ds.isEmpty || lead < -400 then .finite negative 0
  else if 400 < lead then .infinite negative
  else match exponent with
    | .ofNat e => ofUnits negative (Text.digitsValue ds * Nat.pow 10 e * one) 1
    | .negSucc e => ofUnits negative (Text.digitsValue ds * one) (Nat.pow 10 (e + 1))

/-- The double nearest to an integer. -/
def ofInt (i : Int) : Binary64 :=
  if i.natAbs < Nat.pow 2 1024 then ofUnits (i < 0) (i.natAbs * one) 1 else .infinite (i < 0)

/-! ## Integers -/

/-- The integer that a double denotes, if it denotes one. -/
def toInt? : Binary64 → Option Int
  | .finite negative units =>
      if units % one == 0 then
        let n : Int := (units / one : Nat)
        some (if negative then -n else n)
      else none
  | _ => none

def isFinite : Binary64 → Bool
  | .finite _ _ => true
  | _ => false

/-- The number is zero, of either sign. -/
def isZero : Binary64 → Bool
  | .finite _ 0 => true
  | _ => false

/-! ## Shortest digits -/

/-- The exponent of the leading decimal digit of `units`, when `units` is positive. -/
def leading (units : Nat) : Int :=
  if one ≤ units then (Text.digits (units / one)).length - 1
  else -((Text.digits ((one + units - 1) / units - 1)).length : Int)

/-- `c · 10 ^ p` and a number of quarter units, brought to one scale: the pair is to be compared. -/
def scaled (c : Nat) (p : Int) (quarters : Nat) : Nat × Nat :=
  match p with
  | .ofNat e => (c * Nat.pow 10 e * (4 * one), quarters)
  | .negSucc e => (c * (4 * one), quarters * Nat.pow 10 (e + 1))

/-- `c · 10 ^ p` reads back as `units`. -/
def readsBack (units : Nat) (c : Nat) (p : Int) : Bool :=
  let half := 2 * Nat.pow 2 (spare units)
  let significand := units / Nat.pow 2 (spare units)
  let below := if significand == Nat.pow 2 52 && 0 < spare units then half / 2 else half
  let (x, lo) := scaled c p (4 * units - below)
  let (_, hi) := scaled c p (4 * units + half)
  if significand % 2 == 0 then lo ≤ x && x ≤ hi else lo < x && x < hi

/-- The multiple of `10 ^ p` that reads back as `units`, the nearer of two. -/
def onGrid? (units : Nat) (p : Int) : Option Nat :=
  let (d, v) := scaled 1 p (4 * units)
  let c := v / d
  let r := v % d
  match readsBack units c p, readsBack units (c + 1) p with
  | true, true => some (if 2 * r < d || (2 * r == d && c % 2 == 0) then c else c + 1)
  | true, false => some c
  | false, true => some (c + 1)
  | false, false => none

/-- Searches the grids of `k`, `k + 1`, … digits, at most `fuel` of them. -/
def shortestFrom (units : Nat) (lead : Int) : (fuel k : Nat) → Nat × Int
  | 0, k => (units / one, lead - k)
  | fuel + 1, k =>
      let p := lead - k + 1
      match onGrid? units p with
      | some c => (c, p)
      | none => shortestFrom units lead fuel (k + 1)

/-- The fewest digits that read back as `units`, with the exponent of the last of them. -/
def shortest (units : Nat) : Nat × Int :=
  if units == 0 then (0, 0) else shortestFrom units (leading units) 17 1

/-! ## Text -/

/-- Digits with their trailing zeros moved into the exponent. -/
def withoutZeros (ds : List Char) (p : Int) : List Char × Int :=
  let kept := (ds.reverse.dropWhile (· == '0')).reverse
  if kept.isEmpty then (['0'], 0) else (kept, p + (ds.length - kept.length : Nat))

/-- The exponent sign and digits, at least two of them. -/
def exponentText (e : Int) : List Char :=
  let ds := Text.digits e.natAbs
  (if e < 0 then '-' else '+') :: (List.replicate (2 - ds.length) '0' ++ ds)

/-- Digits `ds` with the last of them at `10 ^ p`. -/
def decimalText (ds : List Char) (p : Int) : List Char :=
  let (ds, p) := withoutZeros ds p
  let lead := p + ds.length - 1
  if lead < -4 || 16 ≤ lead then
    let (first, rest) := ds.splitAt 1
    first ++ (if rest.isEmpty then [] else '.' :: rest) ++ 'e' :: exponentText lead
  else if 0 ≤ p then ds ++ List.replicate p.toNat '0' ++ ['.', '0']
  else if 0 ≤ lead then
    let (whole, rest) := ds.splitAt (lead + 1).toNat
    whole ++ '.' :: rest
  else '0' :: '.' :: (List.replicate (-lead - 1).toNat '0' ++ ds)

/-- The text of a finite magnitude. -/
def magnitudeText (units : Nat) : List Char :=
  let (c, p) := shortest units
  decimalText (Text.digits c) p

/-- The text of a number; `infinity` and `notANumber` are the words for those. -/
def textWith (infinity notANumber : String) : Binary64 → String
  | .finite negative units =>
      String.ofList ((if negative then ['-'] else []) ++ magnitudeText units)
  | .infinite negative => (if negative then "-" else "") ++ infinity
  | .nan => notANumber

def text : Binary64 → String :=
  textWith "inf" "nan"

end Binary64
end TenderDesk
