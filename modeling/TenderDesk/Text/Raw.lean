import TenderDesk.Text.Quoted

/-!
# Raw — texts with halves of pairs in them

A JSON text may escape one half of a pair of UTF-16 units without the other. Such a half is no
character, and a text that holds one has no UTF-8.

* A `CodePoint` is a character or a half that stands alone.
* `RawText` tells the texts of characters alone (`whole`) from those with a half among them
  (`torn`). Every list of code points is one such text, and in one way only (`ofPoints_points`,
  `points_ofPoints`).
* `TornText.refusal` is what an encoder says of a text that it cannot write.
-/

namespace TenderDesk

/-! ## Code points -/

/-- One of the two units that make up a pair. -/
structure Half where
  unit : Nat
  isHalf : 0xD800 ≤ unit ∧ unit ≤ 0xDFFF
  deriving DecidableEq, Repr

inductive CodePoint
  | char (c : Char)
  | half (h : Half)
  deriving DecidableEq, Repr

namespace CodePoint

/-- The code point that a UTF-16 unit stands for alone. -/
def ofUnit (n : Nat) : CodePoint :=
  if h : 0xD800 ≤ n ∧ n ≤ 0xDFFF then .half ⟨n, h⟩ else .char (Char.ofNat n)

def isChar : CodePoint → Bool
  | .char _ => true
  | .half _ => false

/-- The character shown for a code point: U+FFFD where there is none. -/
def shown : CodePoint → Char
  | .char c => c
  | .half _ => Char.ofNat 0xFFFD

/-- A code point between quotes. -/
def quotedIn (quote : Char) : CodePoint → List Char
  | .char c => Text.quoteChar Text.isPrintable quote c
  | .half h => '\\' :: 'u' :: Text.hexDigits 4 h.unit

end CodePoint

/-! ## Texts -/

/-- A text that is cut by its first half: characters, the half, and whatever follows. -/
structure TornText where
  before : List Char
  half : Half
  after : List CodePoint
  deriving DecidableEq, Repr

inductive RawText
  | whole (text : String)
  | torn (text : TornText)
  deriving DecidableEq, Repr

instance : Inhabited RawText := ⟨.whole ""⟩

instance : Coe String RawText := ⟨.whole⟩

namespace TornText

def points (t : TornText) : List CodePoint :=
  t.before.map .char ++ .half t.half :: t.after

/-- The halves in a row with the first one. -/
def run (t : TornText) : Nat :=
  (t.after.takeWhile fun p => !p.isChar).length + 1

/-- Why the text cannot be written in UTF-8, where it stands behind so many characters. -/
def refusal (offset : Nat) (t : TornText) : String :=
  let start := offset + t.before.length
  if t.run = 1 then
    let unit := String.ofList (Text.hexDigits 4 t.half.unit)
    s!"'utf-8' codec can't encode character '\\u{unit}' in position {start}: surrogates not allowed"
  else
    s!"'utf-8' codec can't encode characters in position {start}-{start + t.run - 1}: "
      ++ "surrogates not allowed"

end TornText

namespace RawText

def points : RawText → List CodePoint
  | .whole s => s.toList.map .char
  | .torn t => t.points

/-- The characters in front of the first half, and that half with what follows. -/
def split : List CodePoint → List Char × Option (Half × List CodePoint)
  | [] => ([], none)
  | .half h :: ps => ([], some (h, ps))
  | .char c :: ps => (c :: (split ps).1, (split ps).2)

/-- The text of some code points. -/
def ofPoints (ps : List CodePoint) : RawText :=
  match split ps with
  | (cs, none) => .whole (String.ofList cs)
  | (cs, some (h, rest)) => .torn ⟨cs, h, rest⟩

/-- The text with U+FFFD for every half. -/
def repaired : RawText → String
  | .whole s => s
  | .torn t => String.ofList (t.points.map CodePoint.shown)

def isEmpty : RawText → Bool
  | .whole s => s.isEmpty
  | .torn _ => false

/-- The text in quotes. -/
def quoted : RawText → String
  | .whole s => Text.quoted s
  | .torn t =>
      let q := Text.quoteFor (t.points.map CodePoint.shown)
      String.ofList (q :: t.points.flatMap (CodePoint.quotedIn q) ++ [q])

@[simp] theorem repaired_whole (s : String) : (whole s).repaired = s := rfl

theorem split_points (cs : List Char) (h : Half) (ps : List CodePoint) :
    split (cs.map .char ++ .half h :: ps) = (cs, some (h, ps)) := by
  induction cs with
  | nil => rfl
  | cons c cs ih => simp only [List.map_cons, List.cons_append, split, ih]

theorem split_characters (cs : List Char) : split (cs.map .char) = (cs, none) := by
  induction cs with
  | nil => rfl
  | cons c cs ih => simp only [List.map_cons, split, ih]

/-- A text is the one of its code points. -/
theorem ofPoints_points (t : RawText) : ofPoints t.points = t := by
  cases t with
  | whole s => simp only [ofPoints, points, split_characters, String.ofList_toList]
  | torn t => simp only [ofPoints, points, TornText.points, split_points]

/-- Every code point is kept. -/
theorem points_ofPoints (ps : List CodePoint) : (ofPoints ps).points = ps := by
  induction ps with
  | nil => rfl
  | cons p ps ih =>
      cases p with
      | half h => rfl
      | char c =>
          unfold ofPoints at ih ⊢
          rw [split]
          -- The text is torn exactly where the rest of it is.
          rcases hrest : split ps with ⟨cs, _ | ⟨h, rest⟩⟩
          all_goals
            rw [hrest] at ih
            simpa [points, TornText.points] using ih

end RawText
end TenderDesk
