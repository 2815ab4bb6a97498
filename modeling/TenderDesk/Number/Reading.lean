import TenderDesk.Text.Blank
import TenderDesk.Text.Digit
import TenderDesk.Text.Quoted
import TenderDesk.Number.Binary64

/-!
# Reading — numbers from text

* `readInteger` takes decimal digits of any script with a sign and white space around them.
* `readWhole?` takes ASCII digits only, and lets zeros follow a point.
* `readReal?` takes fixed and exponent notation, and the words for infinity and "not a number".

In all of them a single underscore may stand between two digits.
-/

namespace TenderDesk
namespace Number

/-- The most digits that an integer text may have. -/
def maxDigits : Nat := 4300

/-- Why a text is not an integer. -/
inductive IntegerFault
  | malformed
  | tooLong (digits : Nat)
  deriving DecidableEq, Repr

/-- The refusal of an integer with too many digits. -/
def tooLongMessage (digits : Nat) : String :=
  s!"Exceeds the limit ({maxDigits} digits) for integer string conversion: value has {digits} digits; use sys.set_int_max_str_digits() to increase the limit"

/-- The message about a text that was to be an integer. -/
def IntegerFault.message (text : String) : IntegerFault → String
  | .malformed =>
      "invalid literal for int() with base 10: "
        ++ String.ofList ((Text.quoted text).toList.take 200)
  | .tooLong n => tooLongMessage n

/-- Takes a leading sign off; `true` for a minus. -/
def splitSign : List Char → Bool × List Char
  | '-' :: r => (true, r)
  | '+' :: r => (false, r)
  | cs => (false, cs)

/-- Removes single underscores between digits; anything else but digits is refused. -/
def ungroup? : List Char → Option (List Char)
  | [] => none
  | [c] => if Text.isDigit c then some [c] else none
  | c :: '_' :: d :: r =>
      if Text.isDigit c then (ungroup? (d :: r)).map (c :: ·) else none
  | c :: r => if Text.isDigit c then (ungroup? r).map (c :: ·) else none

/-- A decimal digit of any script as the ASCII digit of the same value. -/
def asAscii (c : Char) : Char :=
  match Text.decimal? c with
  | some d => Char.ofNat ('0'.toNat + d)
  | none => c

def signed (negative : Bool) (n : Nat) : Int :=
  if negative then -n else n

/-- The integer that a text denotes. -/
def readInteger (s : String) : Except IntegerFault Int :=
  let (negative, body) := splitSign ((Text.trimBy Text.isBlank s.toList).map asAscii)
  match ungroup? body with
  | none => .error .malformed
  | some ds =>
      if maxDigits < ds.length then .error (.tooLong ds.length)
      else .ok (signed negative (Text.digitsValue ds))

/-- Drops a point that only zeros follow. -/
def dropPointZeros (cs : List Char) : List Char :=
  let whole := cs.takeWhile (· != '.')
  match cs.drop whole.length with
  | _ :: zeros => if zeros.all (· == '0') then whole else cs
  | [] => cs

/-- The integer that a text of ASCII digits denotes; a fraction of zeros is no fraction. -/
def readWhole? (s : String) : Option Int :=
  let (negative, body) := splitSign (Text.trimBy Text.isBlank s.toList)
  (ungroup? (dropPointZeros body)).map fun ds => signed negative (Text.digitsValue ds)

/-! ## Real numbers -/

/-- Digits before a point, digits after it, and the rest of the text. -/
def splitPoint (cs : List Char) : List Char × List Char × List Char :=
  let grouped := fun c => Text.isDigit c || c == '_'
  let whole := cs.takeWhile grouped
  match cs.dropWhile grouped with
  | '.' :: r => (whole, r.takeWhile grouped, r.dropWhile grouped)
  | r => (whole, [], r)

/-- The digits of a group that may be empty. -/
def ungroupOrEmpty? (cs : List Char) : Option (List Char) :=
  if cs.isEmpty then some [] else ungroup? cs

/-- The exponent that ends a number. -/
def readExponent? : List Char → Option Int
  | [] => some 0
  | c :: r =>
      if c == 'e' || c == 'E' then
        let (negative, body) := splitSign r
        (ungroup? body).map fun ds => signed negative (Text.digitsValue ds)
      else none

/-- The double nearest to the number that a text denotes. -/
def readReal? (s : String) : Option Binary64 :=
  let (negative, body) := splitSign ((Text.trimBy Text.isBlank s.toList).map asAscii)
  let word := String.ofList (body.map Char.toLower)
  if word == "inf" || word == "infinity" then some (.infinite negative)
  else if word == "nan" then some .nan
  else
    let (whole, fraction, rest) := splitPoint body
    if whole.isEmpty && fraction.isEmpty then none
    else do
      let w ← ungroupOrEmpty? whole
      let f ← ungroupOrEmpty? fraction
      let e ← readExponent? rest
      some (.ofDecimal negative (w ++ f) (e - f.length))

end Number
end TenderDesk
