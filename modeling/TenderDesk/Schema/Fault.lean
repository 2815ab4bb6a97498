import TenderDesk.Json.Basic

/-!
# Fault — located problems of a value, all of them at once

* A `Fault` is a problem with the path that leads to it.
* `Checked α` is a value or the list of all faults found. Its applicative structure reads every
  part and joins the faults in order; there is no sequencing that would stop at the first.
-/

namespace TenderDesk
namespace Schema

/-- One step of a path into a value. -/
inductive Step
  | name (text : RawText)
  | index (position : Nat)
  deriving DecidableEq, Repr

def Step.json : Step → Json
  | .name s => .str s
  | .index n => .int n

inductive Problem
  | missing
  | text
  /-- A text that holds half of a pair alone stands where its characters count. -/
  | halved
  | whole
  | wholeText
  | wholeFraction
  | wholeSize
  | finite
  | flag
  | flagText
  | real
  | realText
  | choice
  | list
  | object
  | octets
  | moment
  | momentText
  | momentRange
  | record
  /-- Something else than a record stands where the body of a request gives one. -/
  | recordBody
  /-- The text of a body is not in its format. -/
  | unreadable
  /-- A rule beyond the type of the value is broken. -/
  | rule (message : String)
  deriving DecidableEq, Repr

/-- The code that stands for a problem in answers. -/
def Problem.code : Problem → String
  | .missing => "missing"
  | .text => "string_type"
  | .halved => "string_unicode"
  | .whole => "int_type"
  | .wholeText => "int_parsing"
  | .wholeFraction => "int_from_float"
  | .wholeSize => "int_parsing_size"
  | .finite => "finite_number"
  | .flag => "bool_type"
  | .flagText => "bool_parsing"
  | .real => "float_type"
  | .realText => "float_parsing"
  | .choice => "enum"
  | .list => "list_type"
  | .object => "dict_type"
  | .octets => "bytes_type"
  | .moment => "datetime_type"
  | .momentText => "datetime_from_date_parsing"
  | .momentRange => "datetime_parsing"
  | .record => "model_type"
  | .recordBody => "model_attributes_type"
  | .unreadable => "json_invalid"
  | .rule _ => "value_error"

structure Fault where
  path : List Step
  problem : Problem
  deriving DecidableEq, Repr

namespace Fault

/-- The fault seen from one step further out. -/
def under (s : Step) (f : Fault) : Fault :=
  { f with path := s :: f.path }

/-- Path and code of a fault, and the message of a broken rule. -/
def json (f : Fault) : Json :=
  let message : List (RawText × Json) := match f.problem with
    | .rule message => [("msg", .str ("Value error, " ++ message))]
    | _ => []
  .obj (("loc", .arr (f.path.map Step.json)) :: ("type", .str f.problem.code) :: message)

end Fault

/-! ## Checked values -/

def Checked (α : Type) : Type :=
  Except (List Fault) α

namespace Checked

variable {α β : Type}

def ok (a : α) : Checked α :=
  Except.ok a

def faults (fs : List Fault) : Checked α :=
  Except.error fs

/-- A single problem at the value itself. -/
def problem (p : Problem) : Checked α :=
  faults [⟨[], p⟩]

protected def map (f : α → β) : Checked α → Checked β
  | .ok a => ok (f a)
  | .error fs => faults fs

/-- Applies a function to an argument; the faults of both are joined. -/
protected def ap : Checked (α → β) → Checked α → Checked β
  | .ok f, .ok a => ok (f a)
  | .ok _, .error gs => faults gs
  | .error fs, .ok _ => faults fs
  | .error fs, .error gs => faults (fs ++ gs)

/-- Applies a checked function to a value checked before it. -/
def thenApply (a : Checked α) (f : Checked (α → β)) : Checked β :=
  Checked.ap (Checked.map (fun a f => f a) a) f

instance : Applicative Checked where
  pure := ok
  map := Checked.map
  seq f a := Checked.ap f (a ())

/-- The same check one step further in. -/
def under (s : Step) : Checked α → Checked α
  | .ok a => ok a
  | .error fs => faults (fs.map (Fault.under s))

/-- Goes on with a value when there is one. -/
def andThen (a : Checked α) (f : α → Checked β) : Checked β :=
  match a with
  | .ok a => f a
  | .error fs => faults fs

def toOption : Checked α → Option α
  | .ok a => some a
  | .error _ => none

/-- Checks every item; the faults are those of all items, in order. -/
def ofList : List (Checked α) → Checked (List α)
  | [] => ok []
  | a :: as => Checked.ap (Checked.map List.cons a) (ofList as)

end Checked
end Schema
end TenderDesk
