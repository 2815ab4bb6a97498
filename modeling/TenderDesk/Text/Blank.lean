/-!
# Blank — white space and trimming

Two sets of white space occur. `isBlank` is the Unicode property of that name; `isSpace` adds the
four information separators U+001C to U+001F, which old terminals treated as line ends. Trimming
takes the set as an argument.
-/

namespace TenderDesk
namespace Text

/-- A character with the Unicode property `White_Space`. -/
def isBlank (c : Char) : Bool :=
  let n := c.toNat
  (0x9 ≤ n && n ≤ 0xD) || n == 0x20 || n == 0x85 || n == 0xA0 || n == 0x1680
    || (0x2000 ≤ n && n ≤ 0x200A) || n == 0x2028 || n == 0x2029 || n == 0x202F
    || n == 0x205F || n == 0x3000

/-- White space together with the information separators. -/
def isSpace (c : Char) : Bool :=
  isBlank c || (0x1C ≤ c.toNat && c.toNat ≤ 0x1F)

/-- Drops the characters of a set from both ends. -/
def trimBy (p : Char → Bool) (cs : List Char) : List Char :=
  ((cs.dropWhile p).reverse.dropWhile p).reverse

/-- A text without the white space around it. -/
def strip (s : String) : String :=
  String.ofList (trimBy isSpace s.toList)

@[simp] theorem trimBy_nil (p : Char → Bool) : trimBy p [] = [] := rfl

/-- A text whose ends are outside the set stays as it is. -/
theorem trimBy_eq_self {p : Char → Bool} {cs : List Char}
    (first : ∀ c ∈ cs.head?, p c = false) (last : ∀ c ∈ cs.getLast?, p c = false) :
    trimBy p cs = cs := by
  have keep : ∀ l : List Char, (∀ c ∈ l.head?, p c = false) → l.dropWhile p = l := by
    intro l h
    cases l with
    | nil => rfl
    | cons c r => simp [h c (by simp)]
  unfold trimBy
  rw [keep cs first, keep cs.reverse (by simpa using last), List.reverse_reverse]

end Text
end TenderDesk
