import TenderDesk.Json.Basic

/-!
# Shown — values as they are named in messages

A text stands in quotes, the three words are `None`, `True` and `False`, and collections keep their
brackets. The `height` of a value is what showing it takes.
-/

namespace TenderDesk
namespace Json

mutual

/-- A value as part of a message. -/
def shown : Json → String
  | .null => "None"
  | .bool b => if b then "True" else "False"
  | .int i => toString i
  | .real x => x.text
  | .str s => s.quoted
  | .arr xs => "[" ++ ", ".intercalate (shownItems xs) ++ "]"
  | .obj ms => "\x7b" ++ ", ".intercalate (shownMembers ms) ++ "\x7d"
  termination_by structural v => v

def shownItems : List Json → List String
  | [] => []
  | x :: xs => x.shown :: shownItems xs
  termination_by structural xs => xs

def shownMembers : List (RawText × Json) → List String
  | [] => []
  | (k, v) :: ms => (k.quoted ++ ": " ++ v.shown) :: shownMembers ms
  termination_by structural ms => ms

end

mutual

/-- How many values stand within one another, the value itself included. -/
def height : Json → Nat
  | .arr xs => heightItems xs + 1
  | .obj ms => heightMembers ms + 1
  | _ => 1
  termination_by structural v => v

def heightItems : List Json → Nat
  | [] => 0
  | x :: xs => max x.height (heightItems xs)
  termination_by structural xs => xs

def heightMembers : List (RawText × Json) → Nat
  | [] => 0
  | (_, v) :: ms => max v.height (heightMembers ms)
  termination_by structural ms => ms

end

/-- A value as a text of its own: a text is itself, without quotes. -/
def plain : Json → String
  | .str s => s.repaired
  | v => v.shown

/-- The word for the sort of a value. -/
def sort : Json → String
  | .null => "NoneType"
  | .bool _ => "bool"
  | .int _ => "int"
  | .real _ => "float"
  | .str _ => "str"
  | .arr _ => "list"
  | .obj _ => "dict"

end Json
end TenderDesk
