import TenderDesk.Json.Basic
import TenderDesk.Number.Reading

/-!
# Parser — JSON text to values, with located faults

* `Json.parse` reads a whole text. The words `NaN`, `Infinity` and `-Infinity` are numbers too.
* Arrays and objects may be nested as deeply as there is `room` for; the reader says how much.
* A `Fault` names what was expected and the offset of the character where the reading stopped;
  its message gives line and column as well.
* Each step of the descent consumes a character, so twice the length of the text bounds the depth.
-/

namespace TenderDesk
namespace Json

/-! ## Faults -/

inductive Expectation
  | value
  | endOfText
  | memberName
  | colon
  | comma
  | closingQuote
  | noControlCharacter
  | knownEscape
  | hexEscape
  | noByteOrderMark
  /-- An integer has too many digits. -/
  | fewerDigits (digits : Nat)
  /-- There is no room for another array or object within those that are open. -/
  | fewerLevels (sort : String)
  deriving DecidableEq, Repr

structure Fault where
  expected : Expectation
  offset : Nat
  deriving DecidableEq, Repr

def Expectation.words : Expectation → String
  | .value => "Expecting value"
  | .endOfText => "Extra data"
  | .memberName => "Expecting property name enclosed in double quotes"
  | .colon => "Expecting ':' delimiter"
  | .comma => "Expecting ',' delimiter"
  | .closingQuote => "Unterminated string starting at"
  | .noControlCharacter => "Invalid control character at"
  | .knownEscape => "Invalid \\escape"
  | .hexEscape => "Invalid \\uXXXX escape"
  | .noByteOrderMark => "Unexpected UTF-8 BOM (decode using utf-8-sig)"
  | .fewerDigits n => Number.tooLongMessage n
  | .fewerLevels sort =>
      s!"maximum recursion depth exceeded while decoding a JSON {sort} from a unicode string"

/-- The fault is one of grammar, not of size. -/
def Fault.isSyntax (f : Fault) : Bool :=
  match f.expected with
  | .fewerDigits _ | .fewerLevels _ => false
  | _ => true

/-- The text is nested too deeply, which is no fault of a value. -/
def Fault.isDepth (f : Fault) : Bool :=
  match f.expected with
  | .fewerLevels _ => true
  | _ => false

/-- Line and column of an offset, both counted from one. -/
def lineColumn (text : List Char) (offset : Nat) : Nat × Nat :=
  let before := text.take offset
  (before.count '\n' + 1, (before.reverse.takeWhile (· != '\n')).length + 1)

def Fault.message (text : String) (f : Fault) : String :=
  if f.isSyntax then
    let (line, column) := lineColumn text.toList f.offset
    s!"{f.expected.words}: line {line} column {column} (char {f.offset})"
  else f.expected.words

/-! ## Cursors -/

/-- What is left of a text, and how many characters were passed. -/
structure Cursor where
  rest : List Char
  offset : Nat

namespace Cursor

def skip (n : Nat) (c : Cursor) : Cursor :=
  ⟨c.rest.drop n, c.offset + n⟩

def isGap (c : Char) : Bool :=
  c == ' ' || c == '\t' || c == '\n' || c == '\r'

/-- Passes the white space of the format. -/
def skipGap (c : Cursor) : Cursor :=
  c.skip (c.rest.takeWhile isGap).length

def fail {α : Type} (c : Cursor) (e : Expectation) : Except Fault α :=
  .error ⟨e, c.offset⟩

end Cursor

/-! ## Texts -/

def hexValue? (c : Char) : Option Nat :=
  if Text.isDigit c then some (Text.digitValue c)
  else if 'a' ≤ c && c ≤ 'f' then some (c.toNat - 'a'.toNat + 10)
  else if 'A' ≤ c && c ≤ 'F' then some (c.toNat - 'A'.toNat + 10)
  else none

/-- The unit that the first four characters denote in hexadecimal. -/
def hexUnit? (cs : List Char) : Option Nat :=
  match cs with
  | a :: b :: c :: d :: _ => do
      let a ← hexValue? a
      let b ← hexValue? b
      let c ← hexValue? c
      let d ← hexValue? d
      some (((a * 16 + b) * 16 + c) * 16 + d)
  | _ => none

/-- The character of an escape other than a hexadecimal one. -/
def plainEscape? : Char → Option Char
  | '"' => some '"'
  | '\\' => some '\\'
  | '/' => some '/'
  | 'b' => some (Char.ofNat 0x08)
  | 'f' => some (Char.ofNat 0x0C)
  | 'n' => some '\n'
  | 'r' => some '\r'
  | 't' => some '\t'
  | _ => none

def isHigh (n : Nat) : Bool := 0xD800 ≤ n && n ≤ 0xDBFF

def isLow (n : Nat) : Bool := 0xDC00 ≤ n && n ≤ 0xDFFF

/-- Reads a hexadecimal escape whose digits start at the cursor; gives the number of characters
used as well. A pair of escapes may denote one character; half of one alone stays as it is. -/
def readHexEscape (c : Cursor) : Except Fault (CodePoint × Nat) :=
  let fault : Except Fault (CodePoint × Nat) := .error ⟨.hexEscape, c.offset - 1⟩
  if c.rest.length ≤ 4 then fault
  else match hexUnit? c.rest with
    | none => fault
    | some high =>
        match isHigh high, c.rest.drop 4 with
        | true, '\\' :: 'u' :: more =>
            if more.length ≤ 4 then .ok (.ofUnit high, 4)
            else match hexUnit? more with
              | none => .error ⟨.hexEscape, c.offset + 5⟩
              | some low =>
                  if isLow low then
                    let n := 0x10000 + (high - 0xD800) * 0x400 + (low - 0xDC00)
                    .ok (.char (Char.ofNat n), 10)
                  else .ok (.ofUnit high, 4)
        | _, _ => .ok (.ofUnit high, 4)

/-- Reads the characters up to the closing quote; `start` is the offset of the opening one. -/
def readText (start : Nat) :
    (fuel : Nat) → Cursor → List CodePoint → Except Fault (RawText × Cursor)
  | 0, _, _ => .error ⟨.closingQuote, start⟩
  | fuel + 1, c, acc =>
      match c.rest with
      | [] => .error ⟨.closingQuote, start⟩
      | '"' :: _ => .ok (.ofPoints acc.reverse, c.skip 1)
      | '\\' :: [] => .error ⟨.closingQuote, start⟩
      | '\\' :: 'u' :: _ =>
          match readHexEscape (c.skip 2) with
          | .error e => .error e
          | .ok (x, n) => readText start fuel (c.skip (n + 2)) (x :: acc)
      | '\\' :: x :: _ =>
          match plainEscape? x with
          | some y => readText start fuel (c.skip 2) (.char y :: acc)
          | none => c.fail .knownEscape
      | x :: _ =>
          if x.toNat < 0x20 then c.fail .noControlCharacter
          else readText start fuel (c.skip 1) (.char x :: acc)

/-! ## Numbers -/

/-- The digits of a whole number: a lone zero, or a row without a leading zero. -/
def wholeDigits (cs : List Char) : List Char :=
  match cs with
  | '0' :: _ => ['0']
  | _ => cs.takeWhile Text.isDigit

/-- The digits behind a point that starts the text. -/
def fractionDigits : List Char → List Char
  | '.' :: r => r.takeWhile Text.isDigit
  | _ => []

/-- The sign and digits of an exponent that starts the text, and the characters it takes. -/
def exponentPart : List Char → Option (Bool × List Char × Nat)
  | c :: r =>
      if c == 'e' || c == 'E' then
        let (negative, body) := Number.splitSign r
        let ds := body.takeWhile Text.isDigit
        if ds.isEmpty then none
        else some (negative, ds, 1 + (r.length - body.length) + ds.length)
      else none
  | [] => none

/-- Reads a number; `none` if none starts here. -/
def readNumber (c : Cursor) : Except Fault (Option (Json × Cursor)) :=
  let (negative, body) := match c.rest with
    | '-' :: r => (true, r)
    | r => (false, r)
  let whole := wholeDigits body
  if whole.isEmpty then .ok none
  else
    let afterWhole := body.drop whole.length
    let fraction := fractionDigits afterWhole
    let afterFraction :=
      if fraction.isEmpty then afterWhole else afterWhole.drop (fraction.length + 1)
    let used := (if negative then 1 else 0) + whole.length
      + (if fraction.isEmpty then 0 else fraction.length + 1)
    match exponentPart afterFraction with
    | none =>
        if fraction.isEmpty then
          if Number.maxDigits < whole.length then c.fail (.fewerDigits whole.length)
          else .ok (some (.int (Number.signed negative (Text.digitsValue whole)), c.skip used))
        else
          let x := Binary64.ofDecimal negative (whole ++ fraction) (-(fraction.length : Int))
          .ok (some (.real x, c.skip used))
    | some (down, ds, n) =>
        let e := Number.signed down (Text.digitsValue ds) - (fraction.length : Int)
        .ok (some (.real (.ofDecimal negative (whole ++ fraction) e), c.skip (used + n)))

/-! ## Values -/

/-- The words that stand for a value. -/
def wordValues : List (String × Json) :=
  [("null", .null), ("true", .bool true), ("false", .bool false), ("NaN", .real .nan),
   ("Infinity", .real (.infinite false)), ("-Infinity", .real (.infinite true))]

/-- A word that starts here. -/
def readWord? (c : Cursor) : Option (Json × Cursor) :=
  (wordValues.find? fun w => w.1.toList.isPrefixOf c.rest).map fun w => (w.2, c.skip w.1.length)

mutual

/-- Reads the value that starts at the cursor. -/
def readValue : (fuel room : Nat) → Cursor → Except Fault (Json × Cursor)
  | 0, _, c => c.fail .value
  | fuel + 1, room, c =>
      match c.rest with
      | [] => c.fail .value
      | '"' :: r =>
          (readText c.offset (r.length + 1) (c.skip 1) []).map fun (s, c) => (.str s, c)
      | '[' :: _ =>
          match room with
          | 0 => c.fail (.fewerLevels "array")
          | room + 1 =>
              let c := (c.skip 1).skipGap
              match c.rest with
              | ']' :: _ => .ok (.arr [], c.skip 1)
              | _ => (readItems fuel room c).map fun (xs, c) => (.arr xs, c)
      | '\x7b' :: _ =>
          match room with
          | 0 => c.fail (.fewerLevels "object")
          | room + 1 =>
              let c := (c.skip 1).skipGap
              match c.rest with
              | '\x7d' :: _ => .ok (.obj [], c.skip 1)
              | _ => (readMembers fuel room c).map fun (ms, c) => (.obj (unique ms), c)
      | _ =>
          match readWord? c with
          | some r => .ok r
          | none =>
              match readNumber c with
              | .error e => .error e
              | .ok (some r) => .ok r
              | .ok none => c.fail .value

/-- Reads the items of an array and its closing bracket. -/
def readItems : (fuel room : Nat) → Cursor → Except Fault (List Json × Cursor)
  | 0, _, c => c.fail .value
  | fuel + 1, room, c =>
      match readValue fuel room c with
      | .error e => .error e
      | .ok (x, c) =>
          let c := c.skipGap
          match c.rest with
          | ']' :: _ => .ok ([x], c.skip 1)
          | ',' :: _ => (readItems fuel room (c.skip 1).skipGap).map fun (xs, c) => (x :: xs, c)
          | _ => c.fail .comma

/-- Reads the members of an object and its closing brace. -/
def readMembers : (fuel room : Nat) → Cursor → Except Fault (List (RawText × Json) × Cursor)
  | 0, _, c => c.fail .memberName
  | fuel + 1, room, c =>
      match c.rest with
      | '"' :: r =>
          match readText c.offset (r.length + 1) (c.skip 1) [] with
          | .error e => .error e
          | .ok (k, c) =>
              let c := c.skipGap
              match c.rest with
              | ':' :: _ =>
                  match readValue fuel room (c.skip 1).skipGap with
                  | .error e => .error e
                  | .ok (v, c) =>
                      let c := c.skipGap
                      match c.rest with
                      | '\x7d' :: _ => .ok ([(k, v)], c.skip 1)
                      | ',' :: _ =>
                          (readMembers fuel room (c.skip 1).skipGap).map
                            fun (ms, c) => ((k, v) :: ms, c)
                      | _ => c.fail .comma
              | _ => c.fail .colon
      | _ => c.fail .memberName

end

/-- The room that readers usually have for the nesting of arrays and objects. -/
def usualRoom : Nat := 1000

/-- The value that a text denotes, where arrays and objects may be nested as deeply as `room`. -/
def parse (room : Nat) (text : String) : Except Fault Json :=
  let cs := text.toList
  match cs.head? with
  | some '\ufeff' => .error ⟨.noByteOrderMark, 0⟩
  | _ =>
      match readValue (2 * cs.length + 2) room (Cursor.mk cs 0).skipGap with
      | .error e => .error e
      | .ok (v, c) =>
          let c := c.skipGap
          if c.rest.isEmpty then .ok v else c.fail .endOfText

end Json
end TenderDesk
