import TenderDesk.Number.Binary64
import TenderDesk.Text.Raw

/-!
# Json — values with ordered members

Numbers written without a fraction or an exponent are integers of any size, all others are
doubles. The members of an object keep the order in which their names first occurred. Texts and
names are kept as they are written, halves of pairs included.
-/

namespace TenderDesk

inductive Json
  | null
  | bool (value : Bool)
  | int (value : Int)
  | real (value : Binary64)
  | str (value : RawText)
  | arr (items : List Json)
  | obj (members : List (RawText × Json))
  deriving Inhabited, Repr

namespace Json

/-! ## Equality -/

mutual

def decEq : (a b : Json) → Decidable (a = b)
  | .null, .null => isTrue rfl
  | .bool a, .bool b => if h : a = b then isTrue (h ▸ rfl) else isFalse (by simp [h])
  | .int a, .int b => if h : a = b then isTrue (h ▸ rfl) else isFalse (by simp [h])
  | .real a, .real b => if h : a = b then isTrue (h ▸ rfl) else isFalse (by simp [h])
  | .str a, .str b => if h : a = b then isTrue (h ▸ rfl) else isFalse (by simp [h])
  | .arr a, .arr b => match decEqItems a b with
    | isTrue h => isTrue (h ▸ rfl)
    | isFalse h => isFalse (by simp [h])
  | .obj a, .obj b => match decEqMembers a b with
    | isTrue h => isTrue (h ▸ rfl)
    | isFalse h => isFalse (by simp [h])
  | .null, .bool _ | .null, .int _ | .null, .real _ | .null, .str _ | .null, .arr _
  | .null, .obj _ | .bool _, .null | .bool _, .int _ | .bool _, .real _ | .bool _, .str _
  | .bool _, .arr _ | .bool _, .obj _ | .int _, .null | .int _, .bool _ | .int _, .real _
  | .int _, .str _ | .int _, .arr _ | .int _, .obj _ | .real _, .null | .real _, .bool _
  | .real _, .int _ | .real _, .str _ | .real _, .arr _ | .real _, .obj _ | .str _, .null
  | .str _, .bool _ | .str _, .int _ | .str _, .real _ | .str _, .arr _ | .str _, .obj _
  | .arr _, .null | .arr _, .bool _ | .arr _, .int _ | .arr _, .real _ | .arr _, .str _
  | .arr _, .obj _ | .obj _, .null | .obj _, .bool _ | .obj _, .int _ | .obj _, .real _
  | .obj _, .str _ | .obj _, .arr _ => isFalse (by simp)
  termination_by structural a => a

def decEqItems : (a b : List Json) → Decidable (a = b)
  | [], [] => isTrue rfl
  | [], _ :: _ | _ :: _, [] => isFalse (by simp)
  | x :: xs, y :: ys => match x.decEq y, decEqItems xs ys with
    | isTrue h, isTrue h' => isTrue (by simp [h, h'])
    | isFalse h, _ | _, isFalse h => isFalse (by simp [h])
  termination_by structural a => a

def decEqMembers : (a b : List (RawText × Json)) → Decidable (a = b)
  | [], [] => isTrue rfl
  | [], _ :: _ | _ :: _, [] => isFalse (by simp)
  | (k, x) :: xs, (l, y) :: ys =>
    match instDecidableEqRawText k l, x.decEq y, decEqMembers xs ys with
    | isTrue h, isTrue h', isTrue h'' => isTrue (by simp [h, h', h''])
    | isFalse h, _, _ | _, isFalse h, _ | _, _, isFalse h => isFalse (by simp [h])
  termination_by structural a => a

end

instance : DecidableEq Json := decEq

/-! ## Members -/

/-- The value of the first member of a name. -/
def find? (name : RawText) : List (RawText × Json) → Option Json
  | [] => none
  | (k, v) :: ms => if k = name then some v else find? name ms

/-- Sets a member: an existing one keeps its place, a new one goes to the end. -/
def setMember (name : RawText) (value : Json) :
    List (RawText × Json) → List (RawText × Json)
  | [] => [(name, value)]
  | (k, v) :: ms => if k = name then (k, value) :: ms else (k, v) :: setMember name value ms

/-- Members with every name once, each with its last value. -/
def unique (ms : List (RawText × Json)) : List (RawText × Json) :=
  ms.foldl (fun acc m => setMember m.1 m.2 acc) []

/-- The value of a member, if the value is an object that has it. -/
def get? (name : RawText) : Json → Option Json
  | .obj ms => find? name ms
  | _ => none

/-- The values that count as nothing: null, false, zero and everything empty. -/
def isEmpty : Json → Bool
  | .null => true
  | .bool b => !b
  | .int i => i == 0
  | .real x => x.isZero
  | .str s => s.isEmpty
  | .arr xs => xs.isEmpty
  | .obj ms => ms.isEmpty

/-- A text of characters. -/
def ofText (s : String) : Json :=
  .str s

/-- A text or null. -/
def ofText? : Option String → Json
  | some s => .str s
  | none => .null

/-- An integer or null. -/
def ofInt? : Option Int → Json
  | some i => .int i
  | none => .null

@[simp] theorem find?_nil (name : RawText) : find? name [] = none := rfl

theorem find?_setMember_self (name : RawText) (value : Json) (ms : List (RawText × Json)) :
    find? name (setMember name value ms) = some value := by
  induction ms with
  | nil => simp [setMember, find?]
  | cons m ms ih =>
      obtain ⟨k, v⟩ := m
      by_cases h : k = name <;> simp [setMember, find?, h, ih]

theorem find?_setMember_of_ne {name other : RawText} (h : other ≠ name) (value : Json)
    (ms : List (RawText × Json)) :
    find? other (setMember name value ms) = find? other ms := by
  induction ms with
  | nil => simp [setMember, find?, Ne.symm h]
  | cons m ms ih =>
      obtain ⟨k, v⟩ := m
      by_cases hk : k = name
      · subst hk; simp [setMember, find?, Ne.symm h]
      · simp only [setMember, if_neg hk, find?, ih]

end Json
end TenderDesk
