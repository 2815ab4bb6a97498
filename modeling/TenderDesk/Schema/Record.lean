import TenderDesk.Schema.Codec

/-!
# Record — structures as tables of entries

* `Slot α` tells a member that is absent from one that is null and from one that has a value.
* An `Entry ρ` gives one member of the structure `ρ`: its label in sent records, its plain name,
  and how it is read and written. The label is looked up first, then the name.
* `Codec.record` reads a structure entry by entry, joining the faults, and ignores other members.
-/

namespace TenderDesk
namespace Schema

inductive Slot (α : Type)
  | absent
  | null
  | set (value : α)
  deriving DecidableEq, Repr, Inhabited

namespace Slot

variable {α : Type}

/-- The value, if there is one. -/
def get? : Slot α → Option α
  | .set a => some a
  | _ => none

/-- A member that is present: null when there is no value. -/
def ofOption : Option α → Slot α
  | some a => .set a
  | none => .null

end Slot

structure Entry (ρ : Type) where
  label : String
  name : String
  /-- Reads the member, which may be missing, and gives what it does to the structure. -/
  read : Option Json → Checked (ρ → ρ)
  /-- The member as it is sent, if it is sent at all. -/
  write : ρ → Option Json
  /-- The member as it is shown in full. -/
  full : ρ → Json

namespace Entry

variable {ρ α : Type}

/-- A member that may be absent, null or set. -/
def slot (label name : String) (c : Codec α) (get : ρ → Slot α) (put : Slot α → ρ → ρ) :
    Entry ρ where
  label := label
  name := name
  read
    | none => .ok (put .absent)
    | some .null => .ok (put .null)
    | some j => (c.read j).map fun a => put (.set a)
  write r := match get r with
    | .absent => none
    | .null => some .null
    | .set a => some (c.write a)
  full r := match get r with
    | .set a => c.full a
    | _ => .null

/-- A member that has to be there. -/
def required (label name : String) (c : Codec α) (get : ρ → α) (put : α → ρ → ρ) :
    Entry ρ where
  label := label
  name := name
  read
    | none => .problem .missing
    | some j => (c.read j).map put
  write r := some (c.write (get r))
  full r := c.full (get r)

/-- A member that counts as null when it is missing. -/
def nullable (name : String) (c : Codec α) (get : ρ → Option α) (put : Option α → ρ → ρ) :
    Entry ρ where
  label := name
  name := name
  read
    | none | some .null => .ok (put none)
    | some j => (c.read j).map fun a => put (some a)
  write r := some (((get r).map c.write).getD .null)
  full r := ((get r).map c.full).getD .null

/-- A member with a value of its own when it is missing. -/
def defaulting (name : String) (c : Codec α) (default : α) (get : ρ → α) (put : α → ρ → ρ) :
    Entry ρ where
  label := name
  name := name
  read
    | none => .ok (put default)
    | some j => (c.read j).map put
  write r := some (c.write (get r))
  full r := c.full (get r)

/-- The member of an object that an entry is about. -/
def find? (e : Entry ρ) (ms : List (RawText × Json)) : Option Json :=
  (Json.find? e.label ms).or (Json.find? e.name ms)

/-- Reads an entry from the members of an object; faults are located at the label. -/
def readFrom (e : Entry ρ) (ms : List (RawText × Json)) : Checked (ρ → ρ) :=
  (e.read (e.find? ms)).under (.name e.label)

end Entry

/-! ## Structures -/

/-- The members that are sent, in the order of the table. -/
def payload {ρ : Type} (table : List (Entry ρ)) (r : ρ) : List (RawText × Json) :=
  table.filterMap fun e => (e.write r).map (e.label, ·)

/-- Every member with its plain name. -/
def fullMembers {ρ : Type} (table : List (Entry ρ)) (r : ρ) : List (RawText × Json) :=
  table.map fun e => (e.name, e.full r)

/-- Reads all entries of a table in order, starting from a structure to be filled. -/
def readEntries {ρ : Type} (ms : List (RawText × Json)) (table : List (Entry ρ)) (empty : ρ) :
    Checked ρ :=
  table.foldl (fun acc e => acc.thenApply (e.readFrom ms)) (.ok empty)

/-- A structure given by a table; `empty` is only filled, never shown. -/
def Codec.record {ρ : Type} (table : List (Entry ρ)) (empty : ρ) : Codec ρ where
  read
    | .obj ms => readEntries ms table empty
    | _ => .problem .record
  write r := .obj (payload table r)
  full r := .obj (fullMembers table r)

/-! ## Properties -/

theorem Slot.get?_ofOption {α : Type} (o : Option α) : (Slot.ofOption o).get? = o := by
  cases o <;> rfl

theorem Codec.record_read_of_not_obj {ρ : Type} {table : List (Entry ρ)} {empty : ρ} {j : Json}
    (h : ∀ ms, j ≠ .obj ms) : (Codec.record table empty).read j = Checked.problem .record := by
  cases j <;> first | rfl | exact absurd rfl (h _)

end Schema
end TenderDesk
