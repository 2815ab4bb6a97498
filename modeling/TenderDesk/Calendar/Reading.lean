import TenderDesk.Calendar.Moment
import TenderDesk.Number.Binary64
import TenderDesk.Number.Reading

/-!
# Reading — moments from text and from Unix counts

* A text is a date alone, which is its midnight, or a date and a time divided by `T`, `t`, a blank
  or `_`. Seconds and their fraction may be left out; digits of the fraction beyond the sixth are
  dropped. `Z`, `z`, `+hh:mm` or `+hhmm` may follow.
* A number, or a text of one, counts seconds from the first of January 1970, or milliseconds when
  it is beyond `watershed`.
-/

namespace TenderDesk
namespace Calendar

/-! ## Text -/

/-- The number that two digits denote. -/
def pair? (a b : Char) : Option Nat :=
  if Text.isDigit a && Text.isDigit b then some (10 * Text.digitValue a + Text.digitValue b)
  else none

/-- The date that ten characters denote, and the rest. -/
def readDay? : List Char → Option (Day × List Char)
  | y1 :: y2 :: y3 :: y4 :: '-' :: m1 :: m2 :: '-' :: d1 :: d2 :: rest => do
      let century ← pair? y1 y2
      let year ← pair? y3 y4
      let month ← pair? m1 m2
      let day ← pair? d1 d2
      let d : Day := ⟨100 * century + year, month, day⟩
      if d.isValid then some (d, rest) else none
  | _ => none

/-- Microseconds from the digits of a fraction of a second. -/
def fractionMicros (ds : List Char) : Nat :=
  let ds := ds.take 6
  Text.digitsValue (ds ++ List.replicate (6 - ds.length) '0')

/-- The microseconds that seconds with an optional fraction denote, and the rest. -/
def readSeconds? : List Char → Option (Nat × List Char)
  | ':' :: s1 :: s2 :: rest => do
      let s ← pair? s1 s2
      if 59 < s then none
      else
        match rest with
        | c :: more =>
            if c == '.' || c == ',' then
              let ds := more.takeWhile Text.isDigit
              if ds.isEmpty then none
              else some (s * microsPerSecond + fractionMicros ds, more.drop ds.length)
            else some (s * microsPerSecond, rest)
        | [] => some (s * microsPerSecond, [])
  | ':' :: _ => none
  | rest => some (0, rest)

/-- The microseconds of a day that a time denotes, and the rest. -/
def readTime? : List Char → Option (Nat × List Char)
  | h1 :: h2 :: ':' :: m1 :: m2 :: rest => do
      let h ← pair? h1 h2
      let m ← pair? m1 m2
      if 23 < h || 59 < m then none
      else
        let (s, rest) ← readSeconds? rest
        some ((h * 60 + m) * 60 * microsPerSecond + s, rest)
  | _ => none

/-- Hours and minutes of an offset, of less than a day. -/
def offsetSeconds? (h1 h2 m1 m2 : Char) : Option Nat := do
  let h ← pair? h1 h2
  let m ← pair? m1 m2
  if 59 < m || 23 < h then none else some ((h * 60 + m) * 60)

/-- The offset that a whole text denotes; `none` inside stands for no offset. -/
def readOffset? : List Char → Option (Option Int)
  | [] => some none
  | ['Z'] | ['z'] => some (some 0)
  | sign :: h1 :: h2 :: rest => do
      let negative ←
        if sign == '+' then some false
        else if sign == '-' || sign == '\u2212' then some true
        else none
      let s ← match rest with
        | [':', m1, m2] => offsetSeconds? h1 h2 m1 m2
        | [m1, m2] => offsetSeconds? h1 h2 m1 m2
        | _ => none
      some (some (Number.signed negative s))
  | _ => none

/-- The moment that a date with a time denotes. -/
def readDayTime? (cs : List Char) : Option Moment := do
  let (day, rest) ← readDay? cs
  match rest with
  | [] => some ⟨day, 0, none⟩
  | c :: rest =>
      if c == 'T' || c == 't' || c == ' ' || c == '_' then
        let (micros, rest) ← readTime? rest
        let offset ← readOffset? rest
        some ⟨day, micros, offset⟩
      else none

/-! ## Unix counts -/

/-- The largest count that stands for seconds. -/
def watershed : Nat := 20000000000

/-- The moment of a count of seconds or milliseconds, with microseconds to add. -/
def ofCount? (count : Int) (micros : Nat) : Option Moment :=
  let (seconds, extra) :=
    if count.natAbs ≤ watershed then (count, 0)
    else (count / 1000, (count % 1000).toNat * 1000)
  let total := micros + extra
  Moment.ofUnix? (seconds + (total / microsPerSecond : Nat)) (total % microsPerSecond)

/-- The moment of a fractional count: its floor, and its fraction as microseconds, rounded. -/
def ofReal? : Binary64 → Option Moment
  | .finite negative units =>
      let whole := units / Binary64.one
      let fraction := units % Binary64.one
      let micros :=
        match Binary64.ofUnits false (fraction * microsPerSecond) 1 with
        | .finite _ u => (2 * u + Binary64.one) / (2 * Binary64.one)
        | _ => 0
      let floor : Int :=
        if negative then -((if fraction == 0 then whole else whole + 1 : Nat) : Int) else whole
      ofCount? floor micros
  | _ => none

/-- The moment of a text that holds a count, with an optional fraction of it. -/
def readCount? (cs : List Char) : Option Moment :=
  let (negative, body) := Number.splitSign cs
  let whole := body.takeWhile Text.isDigit
  match body.drop whole.length with
  | [] =>
      if whole.isEmpty then none
      else ofCount? (Number.signed negative (Text.digitsValue whole)) 0
  | '.' :: ds =>
      if ds.all Text.isDigit then
        ofReal? (.ofDecimal negative (whole ++ ds) (-(ds.length : Int)))
      else none
  | _ => none

/-- The moment that a text denotes. -/
def readMoment? (s : String) : Option Moment :=
  (readDayTime? s.toList).or (readCount? s.toList)

end Calendar
end TenderDesk
