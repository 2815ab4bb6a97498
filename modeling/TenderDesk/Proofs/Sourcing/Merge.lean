import TenderDesk.Sourcing.Wire

/-!
# Merge — what a partial change makes of a record

The platform goes through what it is sent field by field. A field that is there replaces the field
of the record, be it null or empty, and a field that is not there leaves it.

* `Json.fields` lists the fields of a value with the paths that lead to them.
* `Json.setAt` sets one field. It is found there afterwards (`Json.at?_setAt_self`), and whatever
  stands on another path is as it was (`Json.at?_setAt_of_apart`).
* `Sourcing.merge` sets all fields of a change, the ones that address the record left out.
-/

namespace TenderDesk

namespace Json

/-! ## Paths -/

/-- The members of an object; other values have none. -/
def members : Json → List (RawText × Json)
  | .obj ms => ms
  | _ => []

/-- The value that a path of names leads to. -/
def at? : List RawText → Json → Option Json
  | [], j => some j
  | name :: path, j => (j.get? name).bind (at? path)

/-- Sets the value that a path leads to. Objects that are missing on the way are added. -/
def setAt : List RawText → Json → Json → Json
  | [], value, _ => value
  | name :: path, value, j =>
      .obj (setMember name (setAt path value ((j.get? name).getD (.obj []))) j.members)

/-- Neither path leads through the end of the other. -/
def Apart (path other : List RawText) : Prop :=
  ¬path <+: other ∧ ¬other <+: path

variable {name other : RawText} {path path' : List RawText} {value j : Json}

@[simp] theorem at?_cons (name : RawText) (path : List RawText) (j : Json) :
    at? (name :: path) j = (j.get? name).bind (at? path) := rfl

theorem get?_eq_find? (name : RawText) (j : Json) : j.get? name = find? name j.members := by
  cases j <;> rfl

@[simp] theorem get?_setAt_self :
    (setAt (name :: path) value j).get? name =
      some (setAt path value ((j.get? name).getD (.obj []))) :=
  find?_setMember_self _ _ _

theorem get?_setAt_of_ne (h : other ≠ name) :
    (setAt (name :: path) value j).get? other = j.get? other :=
  (find?_setMember_of_ne h _ _).trans (get?_eq_find? other j).symm

@[simp] theorem at?_setAt_self (path : List RawText) (value j : Json) :
    at? path (setAt path value j) = some value := by
  induction path generalizing j with
  | nil => rfl
  | cons name path ih => simp [ih]

/-- Nothing but a path that leads through the set field, or to something around it, can tell. -/
theorem at?_setAt_of_apart (h : Apart path path') :
    at? path' (setAt path value j) = at? path' j := by
  induction path generalizing path' j with
  | nil => exact absurd List.nil_prefix h.1
  | cons name path ih =>
      cases path' with
      | nil => exact absurd List.nil_prefix h.2
      | cons other path' =>
          by_cases hname : other = name
          · subst hname
            have hapart : Apart path path' :=
              ⟨fun hp => h.1 (List.cons_prefix_cons.2 ⟨rfl, hp⟩),
                fun hp => h.2 (List.cons_prefix_cons.2 ⟨rfl, hp⟩)⟩
            simp only [at?_cons, get?_setAt_self, Option.bind_some, ih hapart]
            cases j.get? other with
            | some inner => rfl
            | none =>
                -- An object that had to be added has nothing else in it.
                cases path' with
                | nil => exact absurd List.nil_prefix hapart.2
                | cons => rfl
          · simp only [at?_cons, get?_setAt_of_ne hname]

/-! ## Fields -/

mutual

/-- The fields of a value with their paths; whatever is not an object with members is a field. -/
def fields : Json → List (List RawText × Json)
  | .obj ms => if ms.isEmpty then [([], .obj [])] else fieldsOf ms
  | j => [([], j)]
  termination_by structural j => j

def fieldsOf : List (RawText × Json) → List (List RawText × Json)
  | [] => []
  | (name, j) :: ms => (fields j).map (fun f => (name :: f.1, f.2)) ++ fieldsOf ms
  termination_by structural ms => ms

end

end Json

namespace Sourcing

/-! ## Changes -/

/-- The id of a record. -/
def idPath : List RawText :=
  ["rfxSetting", "rfxId"]

/-- The reference code of a record. -/
def referencePath : List RawText :=
  ["rfxSetting", "rfxReferenceCode"]

/-- The fields that only tell which record is meant. -/
def addressPaths : List (List RawText) :=
  [idPath, referencePath]

/-- What the platform makes of a record when it is sent a change of it. -/
def merge (sent record : Json) : Json :=
  (sent.fields.filter fun field => field.1 ∉ addressPaths).foldl
    (fun record field => .setAt field.1 field.2 record) record

/-- The value that a request sends, beside a file or alone. -/
def Request.payload? (request : Request) : Option Json :=
  match request.body with
  | .json value => some value
  | .form (part :: _) =>
      match part.content with
      | .json value => some value
      | .octets _ => none
  | _ => none

/-- Requests to change a record that is there. -/
def Request.isUpdate : Request → Bool
  | .write change => change.command != .createFromTemplate
  | .upload _ _ _ => true
  | _ => false

/-- A change that has one field beside those that address the record sets that field. -/
theorem merge_of_one {sent id reference value : Json} {path : List RawText}
    (hsent : sent.fields = [(idPath, id), (referencePath, reference), (path, value)])
    (hpath : path ∉ addressPaths) (record : Json) :
    merge sent record = .setAt path value record := by
  have hid : idPath ∈ addressPaths := by decide
  have hreference : referencePath ∈ addressPaths := by decide
  have hfield : (sent.fields.filter fun field => field.1 ∉ addressPaths) = [(path, value)] := by
    simp [hsent, hid, hreference, hpath]
  unfold merge
  rw [hfield]
  rfl

/-- A list that is sent empty empties the list of the record. -/
example :
    merge
      (.obj [("rfxSetting", .obj [("rfxId", .str "rfq_1"), ("rfxReferenceCode", .null)]),
        ("suppliersList", .obj [("supplier", .arr [])])])
      (.obj [("rfxSetting", .obj [("shortDescription", .str "Pens")]),
        ("suppliersList", .obj [("supplier", .arr [.int 1001])])]) =
    .obj [("rfxSetting", .obj [("shortDescription", .str "Pens")]),
      ("suppliersList", .obj [("supplier", .arr [])])] := by
  decide +kernel

end Sourcing
end TenderDesk
