import TenderDesk.Text.Digit
import TenderDesk.Text.Quoted

/-!
# Pattern — texts with places for other texts

A place is a percent sign, flags, a width, a precision and a letter: `s` puts the text in as it is,
`r` and `a` in quotes, `c` a single character. The width fills up with blanks on the left, or on
the right under the flag `-`; the precision cuts. `%%` is a percent sign. Every text has to be used
exactly once, in order. The letters for numbers exist, but a text does not suit them.
-/

namespace TenderDesk
namespace Text

/-- Why texts could not be put into a pattern. -/
inductive PatternFault
  | textLeftOver
  | textMissing
  | needsNames
  | needsWidth
  | needsInteger (letter : Char)
  | needsReal (letter : Char)
  | needsDouble
  | needsCharacter
  | unknownLetter (letter : Char) (position : Nat)
  | cutOff
  | widthTooLarge
  | precisionTooLarge
  deriving DecidableEq, Repr

namespace PatternFault

/-- The pattern itself is malformed; the other faults are about the texts for it. -/
def isMalformed : PatternFault → Bool
  | .unknownLetter _ _ | .cutOff | .widthTooLarge | .precisionTooLarge => true
  | _ => false

def message : PatternFault → String
  | .textLeftOver => "not all arguments converted during string formatting"
  | .textMissing => "not enough arguments for format string"
  | .needsNames => "format requires a mapping"
  | .needsWidth => "* wants int"
  | .needsInteger c => s!"%{c} format: an integer is required, not str"
  | .needsReal c => s!"%{c} format: a real number is required, not str"
  | .needsDouble => "must be real number, not str"
  | .needsCharacter => "%c requires int or char"
  | .unknownLetter c n =>
      let shown := if 31 ≤ c.toNat && c.toNat < 126 then c else '?'
      s!"unsupported format character '{shown}' (0x{String.ofList (Nat.toDigits 16 c.toNat)}) at index {n}"
  | .cutOff => "incomplete format"
  | .widthTooLarge => "width too big"
  | .precisionTooLarge => "precision too big"

end PatternFault

/-! ## Places -/

/-- A place without its letter. -/
structure Place where
  left : Bool
  width : Nat
  precision : Option Nat

def isFlag (c : Char) : Bool :=
  c == '-' || c == '+' || c == ' ' || c == '#' || c == '0'

/-- A number or a star that starts the text, and what follows; a star would take a text for a
number. -/
def readAmount (limit : Nat) (tooLarge : PatternFault) (args : List String) (cs : List Char) :
    Except PatternFault (Option Nat × List Char) :=
  match cs with
  | '*' :: _ => .error (if args.isEmpty then .textMissing else .needsWidth)
  | _ =>
      let ds := cs.takeWhile isDigit
      if ds.isEmpty then .ok (none, cs)
      else if limit < digitsValue ds then .error tooLarge
      else .ok (some (digitsValue ds), cs.drop ds.length)

/-- Reads what stands between the percent sign and the letter. -/
def readPlace (args : List String) (cs : List Char) :
    Except PatternFault (Place × List Char) := do
  if cs.head? == some '(' then throw .needsNames
  let flags := cs.takeWhile isFlag
  let (width, cs) ← readAmount (Nat.pow 2 63 - 1) .widthTooLarge args (cs.drop flags.length)
  let (precision, cs) ← match cs with
    | '.' :: r =>
        let (n, r) ← readAmount (Nat.pow 2 31 - 1) .precisionTooLarge args r
        pure (some (n.getD 0), r)
    | _ => pure (none, cs)
  let cs := match cs with
    | 'h' :: r | 'l' :: r | 'L' :: r => r
    | _ => cs
  return (⟨flags.contains '-', width.getD 0, precision⟩, cs)

/-- A text brought to the width of a place. -/
def Place.fill (p : Place) (cs : List Char) : List Char :=
  let gap := List.replicate (p.width - cs.length) ' '
  if p.left then cs ++ gap else gap ++ cs

/-- A text cut to the precision of a place, then brought to its width. -/
def Place.put (p : Place) (s : String) : List Char :=
  p.fill (s.toList.take (p.precision.getD s.length))

/-- What a text becomes in a place with a letter; `position` is that of the letter. -/
def Place.convert (p : Place) (letter : Char) (position : Nat) (s : String) :
    Except PatternFault (List Char) :=
  if letter == 's' then .ok (p.put s)
  else if letter == 'r' then .ok (p.put (quoted s))
  else if letter == 'a' then .ok (p.put (quotedAscii s))
  else if letter == 'c' then
    match s.toList with
    | [c] => .ok (p.fill [c])
    | _ => .error .needsCharacter
  else if ['d', 'i', 'u'].contains letter then .error (.needsReal letter)
  else if ['o', 'x', 'X'].contains letter then .error (.needsInteger letter)
  else if ['e', 'E', 'f', 'F', 'g', 'G'].contains letter then .error .needsDouble
  else .error (.unknownLetter letter position)

/-! ## Patterns -/

/-- Fills the places of what is left of a pattern; `length` is that of the whole pattern. -/
def fillFrom (length : Nat) : (fuel : Nat) → (args : List String) → List Char →
    Except PatternFault (List Char)
  | 0, _, _ => .ok []
  | fuel + 1, args, cs =>
      match cs with
      | [] => if args.isEmpty then .ok [] else .error .textLeftOver
      | '%' :: '%' :: rest => return '%' :: (← fillFrom length fuel args rest)
      | '%' :: rest => do
          let (place, rest) ← readPlace args rest
          match rest with
          | [] => throw .cutOff
          | letter :: rest =>
              match args with
              | [] => throw .textMissing
              | s :: args =>
                  let shown ← place.convert letter (length - rest.length - 1) s
                  return shown ++ (← fillFrom length fuel args rest)
      | c :: rest => return c :: (← fillFrom length fuel args rest)

/-- The pattern with texts in its places. -/
def fillPattern (pattern : String) (args : List String) : Except PatternFault String :=
  let cs := pattern.toList
  (fillFrom cs.length (cs.length + 1) args cs).map String.ofList

end Text
end TenderDesk
