import TenderDesk.Text.Printable

/-!
# Quoted — texts and lists of texts as they appear in messages

A text stands between single quotes, or between double quotes when it holds a single quote and no
double one. The quote in use, the backslash, tabs, line ends and every character without a visible
form are escaped.
-/

namespace TenderDesk
namespace Text

/-- The lower-case hexadecimal digits of a number, filled up with zeros to a width. -/
def hexDigits (width n : Nat) : List Char :=
  let ds := Nat.toDigits 16 n
  List.replicate (width - ds.length) '0' ++ ds

/-- One character between quotes; `shown` tells which characters may stand as they are. -/
def quoteChar (shown : Char → Bool) (quote c : Char) : List Char :=
  if c == '\\' || c == quote then ['\\', c]
  else if c == '\t' then ['\\', 't']
  else if c == '\n' then ['\\', 'n']
  else if c == '\r' then ['\\', 'r']
  else if shown c then [c]
  else if c.toNat < 0x100 then '\\' :: 'x' :: hexDigits 2 c.toNat
  else if c.toNat < 0x10000 then '\\' :: 'u' :: hexDigits 4 c.toNat
  else '\\' :: 'U' :: hexDigits 8 c.toNat

/-- The quote that a text is put into. -/
def quoteFor (cs : List Char) : Char :=
  if cs.contains '\'' && !cs.contains '"' then '"' else '\''

/-- A text in quotes, showing the characters of a given set. -/
def quotedWith (shown : Char → Bool) (s : String) : String :=
  let cs := s.toList
  let q := quoteFor cs
  String.ofList (q :: cs.flatMap (quoteChar shown q) ++ [q])

/-- A text in quotes. -/
def quoted (s : String) : String :=
  quotedWith isPrintable s

/-- A text in quotes with every character outside ASCII escaped. -/
def quotedAscii (s : String) : String :=
  quotedWith (fun c => isPrintable c && c.toNat < 0x80) s

/-- Quoted texts in brackets, divided by commas. -/
def quotedList (xs : List String) : String :=
  "[" ++ ", ".intercalate (xs.map quoted) ++ "]"

end Text
end TenderDesk
