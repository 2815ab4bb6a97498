import TenderDesk.Calendar.Reading
import TenderDesk.Schema.Fault

/-!
# Codec — reading and writing the values of fields

A codec reads a JSON value with all its faults, writes a value as it is sent (`write`), and shows
it in full (`full`), where nothing that has a name is left out.

Reading is lenient about spelling: integers may come as texts, as flags or as doubles without a
fraction, flags as words, moments as counts.
-/

namespace TenderDesk
namespace Schema

structure Codec (α : Type) where
  read : Json → Checked α
  write : α → Json
  full : α → Json := write

namespace Codec

/-- What is written is read back as it was. -/
def Lawful {α : Type} (c : Codec α) : Prop :=
  ∀ a, c.read (c.write a) = Checked.ok a

/-! ## Plain values -/

/-- Texts as they are. -/
def raw : Codec RawText where
  read
    | .str s => .ok s
    | _ => .problem .text
  write := .str

/-- Texts of characters; a half of a pair that stands alone is shown as U+FFFD. -/
def text : Codec String where
  read
    | .str s => .ok s.repaired
    | _ => .problem .text
  write s := .str s

/-- The integers that fit into 64 bits with a sign. -/
def fitsWord (i : Int) : Bool :=
  -0x8000000000000000 ≤ i && i < 0x8000000000000000

/-- The integer that a double stands for. -/
def wholeOfReal (x : Binary64) : Checked Int :=
  if !x.isFinite then .problem .finite
  else match x.toInt? with
    | none => .problem .wholeFraction
    | some i => if fitsWord i then .ok i else .problem .wholeSize

/-- The integer that a text stands for. -/
def wholeOfText (s : String) : Checked Int :=
  if Number.maxDigits < s.length then .problem .wholeSize
  else match Number.readWhole? s with
    | some i => .ok i
    | none => .problem .wholeText

def whole : Codec Int where
  read
    | .int i => .ok i
    | .bool b => .ok (if b then 1 else 0)
    | .real x => wholeOfReal x
    | .str (.whole s) => wholeOfText s
    | .str (.torn _) => .problem .halved
    | _ => .problem .whole
  write := .int

/-- The words for yes and for no. -/
def flagWords : List (String × Bool) :=
  [("1", true), ("t", true), ("true", true), ("y", true), ("yes", true), ("on", true),
   ("0", false), ("f", false), ("false", false), ("n", false), ("no", false), ("off", false)]

/-- The flag that a word stands for, whatever the case of its ASCII letters. -/
def flagOfText (s : String) : Checked Bool :=
  match flagWords.find? fun w => w.1 == String.ofList (s.toList.map Char.toLower) with
  | some w => .ok w.2
  | none => .problem .flagText

def flagOfWhole : Int → Checked Bool
  | 0 => .ok false
  | 1 => .ok true
  | _ => .problem .flagText

def flag : Codec Bool where
  read
    | .bool b => .ok b
    | .str (.whole s) => flagOfText s
    | .str (.torn _) => .problem .halved
    | .int i => if fitsWord i then flagOfWhole i else .problem .flag
    | .real x =>
        match wholeOfReal x with
        | .ok i => flagOfWhole i
        | .error _ => .problem .flag
    | _ => .problem .flag
  write := .bool

/-- Doubles; they are shown as text. -/
def real : Codec Binary64 where
  read
    | .real x => .ok x
    | .int i => .ok (.ofInt i)
    | .bool b => .ok (.ofInt (if b then 1 else 0))
    | .str (.whole s) =>
        match Number.readReal? s with
        | some x => .ok x
        | none => .problem .realText
    | .str (.torn _) => .problem .halved
    | _ => .problem .real
  write := .real
  full x := .str x.text

def moment : Codec Calendar.Moment where
  read
    | .str (.whole s) =>
        match Calendar.readMoment? s with
        | some m => .ok m
        | none => .problem .momentText
    | .str (.torn _) => .problem .halved
    | .int i =>
        let m := if fitsWord i then Calendar.ofCount? i 0 else Calendar.ofReal? (.ofInt i)
        match m with
        | some m => .ok m
        | none => .problem .momentRange
    | .real x =>
        match Calendar.ofReal? x with
        | some m => .ok m
        | none => .problem .momentRange
    | _ => .problem .moment
  write m := .str m.text

/-- Octets, given as a text and shown in hexadecimal. -/
def octets : Codec (List UInt8) where
  read
    | .str (.whole s) => .ok s.toUTF8.toList
    | .str (.torn _) => .problem .halved
    | _ => .problem .octets
  write bs := .str (String.ofList (bs.flatMap fun b =>
    [Nat.digitChar (b.toNat / 16), Nat.digitChar (b.toNat % 16)]))

/-- One of some named values. -/
def choice {α : Type} (find : String → Option α) (name : α → String) : Codec α where
  read
    | .str (.whole s) =>
        match find s with
        | some a => .ok a
        | none => .problem .choice
    | .str (.torn _) => .problem .halved
    | _ => .problem .choice
  write a := .str (name a)

/-- A value that satisfies a further rule. -/
def satisfying {α : Type} (c : Codec α) (p : α → Bool) (message : String) : Codec α :=
  { c with
    read := fun j => (c.read j).andThen fun a =>
      if p a then .ok a else .problem (.rule message) }

/-! ## Collections -/

/-- Reads items one by one, each under its position. -/
def readItems {α : Type} (read : Json → Checked α) (start : Nat) : List Json → List (Checked α)
  | [] => []
  | x :: xs => (read x).under (.index start) :: readItems read (start + 1) xs

def list {α : Type} (c : Codec α) : Codec (List α) where
  read
    | .arr xs => .ofList (readItems c.read 0 xs)
    | _ => .problem .list
  write as := .arr (as.map c.write)
  full as := .arr (as.map c.full)

/-- Reads the values of members, each under its name. -/
def readMembers {α : Type} (read : Json → Checked α) :
    List (RawText × Json) → List (Checked (RawText × α))
  | [] => []
  | (k, v) :: ms => (((read v).map (k, ·)).under (.name k)) :: readMembers read ms

/-- Members of any names whose values have one type. -/
def object {α : Type} (c : Codec α) : Codec (List (RawText × α)) where
  read
    | .obj ms => .ofList (readMembers c.read ms)
    | _ => .problem .object
  write ms := .obj (ms.map fun m => (m.1, c.write m.2))
  full ms := .obj (ms.map fun m => (m.1, c.full m.2))

/-- Any value at all. -/
def any : Codec Json where
  read := .ok
  write := id

/-! ## Lawful codecs -/

theorem raw_lawful : raw.Lawful := fun _ => rfl

theorem text_lawful : text.Lawful := fun _ => rfl

theorem whole_lawful : whole.Lawful := fun _ => rfl

theorem readItems_map {α : Type} {c : Codec α} (h : c.Lawful) (as : List α) (n : Nat) :
    Checked.ofList (readItems c.read n (as.map c.write)) = Checked.ok as := by
  induction as generalizing n with
  | nil => rfl
  | cons a as ih =>
      show Checked.ap (Checked.map List.cons ((c.read (c.write a)).under (.index n)))
        (Checked.ofList (readItems c.read (n + 1) (as.map c.write))) = Checked.ok (a :: as)
      rw [h a, ih]
      rfl

theorem list_lawful {α : Type} {c : Codec α} (h : c.Lawful) : (list c).Lawful :=
  fun as => readItems_map h as 0

theorem choice_lawful {α : Type} {find : String → Option α} {name : α → String}
    (h : ∀ a, find (name a) = some a) : (choice find name).Lawful := by
  intro a
  simp [choice, h]

end Codec
end Schema
end TenderDesk
