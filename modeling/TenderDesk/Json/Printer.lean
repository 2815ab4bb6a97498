import TenderDesk.Json.Basic

/-!
# Printer — JSON text in two styles

`Style.spaced` puts a blank behind commas and colons and escapes everything outside ASCII;
`Style.compact` writes no blanks and leaves other characters as they are.
-/

namespace TenderDesk
namespace Json

structure Style where
  comma : String
  colon : String
  /-- Characters above `~` are escaped. -/
  ascii : Bool

def Style.spaced : Style := ⟨", ", ": ", true⟩

def Style.compact : Style := ⟨",", ":", false⟩

/-! ## Texts -/

/-- The escape of one UTF-16 unit. -/
def unitEscape (n : Nat) : List Char :=
  '\\' :: 'u' :: Text.hexDigits 4 n

/-- The escape of a character by its UTF-16 units. -/
def unicodeEscape (c : Char) : List Char :=
  let n := c.toNat
  if n < 0x10000 then unitEscape n
  else unitEscape (0xD800 + (n - 0x10000) / 0x400) ++ unitEscape (0xDC00 + (n - 0x10000) % 0x400)

def escapeChar (ascii : Bool) (c : Char) : List Char :=
  if c == '"' then ['\\', '"']
  else if c == '\\' then ['\\', '\\']
  else if c == '\n' then ['\\', 'n']
  else if c == '\r' then ['\\', 'r']
  else if c == '\t' then ['\\', 't']
  else if c.toNat == 0x08 then ['\\', 'b']
  else if c.toNat == 0x0C then ['\\', 'f']
  else if c.toNat < 0x20 || (ascii && 0x7E < c.toNat) then unicodeEscape c
  else [c]

/-- The escape of a code point; a half that stands alone is escaped in both styles. -/
def escapePoint (ascii : Bool) : CodePoint → List Char
  | .char c => escapeChar ascii c
  | .half h => unitEscape h.unit

def renderText (style : Style) (s : RawText) : String :=
  String.ofList ('"' :: s.points.flatMap (escapePoint style.ascii) ++ ['"'])

/-! ## Values -/

mutual

/-- The text of a value. -/
def render (style : Style) : Json → String
  | .null => "null"
  | .bool b => if b then "true" else "false"
  | .int i => toString i
  | .real x => x.textWith "Infinity" "NaN"
  | .str s => renderText style s
  | .arr xs => "[" ++ style.comma.intercalate (renderItems style xs) ++ "]"
  | .obj ms => "\x7b" ++ style.comma.intercalate (renderMembers style ms) ++ "\x7d"
  termination_by structural v => v

def renderItems (style : Style) : List Json → List String
  | [] => []
  | x :: xs => x.render style :: renderItems style xs
  termination_by structural xs => xs

def renderMembers (style : Style) : List (RawText × Json) → List String
  | [] => []
  | (k, v) :: ms =>
      (renderText style k ++ style.colon ++ v.render style) :: renderMembers style ms
  termination_by structural ms => ms

end

end Json
end TenderDesk
