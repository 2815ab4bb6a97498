import Mathlib.Data.List.Nodup
import Mathlib.Logic.Relation
import TenderDesk.Schema.Record

/-!
# Spelling — what a record sends, and in which spellings it is read

A field of a record is known by its plain name, and sent under that name in camel case. Both are
keys of the field, and any other key in an object is unknown.

* A `FieldOf` tells what a structure has in one of its fields, and `sent` lists the fields that are
  set, under their keys in camel case.
* `Shape.Respelling shape j j'` is one change of a value that its spelling admits: a key becomes the
  other key of its field, or an unknown member is added, at any depth.
* `Codec.Faithful c shape`: what is written is read back, and respelling changes nothing.
* `Portrays` matches the table of a record with its fields. Such a record sends what is set, and is
  as faithful as each of its fields, if its keys are in order (`Portrays.conveys`).
-/

namespace TenderDesk
namespace Schema

/-! ## Fields -/

/-- A text of words between underscores, with humps in their place. -/
def humps : List Char → List Char
  | '_' :: c :: cs => c.toUpper :: humps cs
  | c :: cs => c :: humps cs
  | [] => []

/-- A name in camel case. -/
def camelCase (name : String) : String :=
  String.ofList (humps name.toList)

example : camelCase "rfx_additional_info_list" = "rfxAdditionalInfoList" := by decide +kernel

/-- The keys under which a field is read. -/
def keysOf (name : String) : List RawText :=
  [camelCase name, name]

namespace Slot

variable {α β : Type}

def map (f : α → β) : Slot α → Slot β
  | .absent => .absent
  | .null => .null
  | .set a => .set (f a)

/-- What is sent for a field: nothing at all, null, or its value. -/
def json? : Slot Json → Option Json
  | .absent => none
  | .null => some .null
  | .set j => some j

end Slot

/-- How a value is made up of records and lists. -/
inductive Shape
  | plain
  | list (item : Shape)
  | record (fields : List (String × Shape))

/-- A field of the structure `ρ`: its name, what a structure has there, and the shape of that. -/
structure FieldOf (ρ : Type) where
  name : String
  value : ρ → Slot Json
  shape : Shape := .plain

/-- The fields of a structure that are set, under their keys in camel case. -/
def sent {ρ : Type} (fields : List (FieldOf ρ)) (r : ρ) : List (RawText × Json) :=
  fields.filterMap fun f => (f.value r).json?.map (camelCase f.name, ·)

def Shape.ofFields {ρ : Type} (fields : List (FieldOf ρ)) : Shape :=
  .record (fields.map fun f => (f.name, f.shape))

/-- No two fields have a key in common. -/
def Apart {ρ : Type} (fields : List (FieldOf ρ)) : Prop :=
  (fields.map FieldOf.name).Pairwise fun a b => ∀ key ∈ keysOf a, key ∉ keysOf b

instance {ρ : Type} (fields : List (FieldOf ρ)) : Decidable (Apart fields) :=
  inferInstanceAs (Decidable (List.Pairwise _ _))

/-- Every entry is labelled with its name in camel case. -/
def Labelled {ρ : Type} (table : List (Entry ρ)) : Prop :=
  ∀ e ∈ table, e.label = camelCase e.name

instance {ρ : Type} (table : List (Entry ρ)) : Decidable (Labelled table) :=
  inferInstanceAs (Decidable (∀ e ∈ table, e.label = camelCase e.name))

/-! ## Respelling -/

/-- One change of a value of some shape that only concerns its spelling. -/
inductive Shape.Respelling : Shape → Json → Json → Prop
  /-- A key becomes the other one of its field, if the field is not named a second time. -/
  | rename {fields : List (String × Shape)} {name : String} {key key' : RawText} {shape : Shape}
      {front back : List (RawText × Json)} {j : Json} (hfield : (name, shape) ∈ fields)
      (hkey : key ∈ keysOf name) (hkey' : key' ∈ keysOf name)
      (hsole : ∀ m ∈ front ++ back, m.1 ∉ keysOf name) :
      Respelling (.record fields) (.obj (front ++ (key, j) :: back))
        (.obj (front ++ (key', j) :: back))
  /-- A member is added that is no field of the record. -/
  | unknown {fields : List (String × Shape)} {key : RawText} {front back : List (RawText × Json)}
      (j : Json) (hunknown : ∀ f ∈ fields, key ∉ keysOf f.1) :
      Respelling (.record fields) (.obj (front ++ back)) (.obj (front ++ (key, j) :: back))
  | member {fields : List (String × Shape)} {name : String} {key : RawText} {shape : Shape}
      {front back : List (RawText × Json)} {j j' : Json} (hfield : (name, shape) ∈ fields)
      (hkey : key ∈ keysOf name) (h : Respelling shape j j') :
      Respelling (.record fields) (.obj (front ++ (key, j) :: back))
        (.obj (front ++ (key, j') :: back))
  | item {shape : Shape} {front back : List Json} {j j' : Json} (h : Respelling shape j j') :
      Respelling (.list shape) (.arr (front ++ j :: back)) (.arr (front ++ j' :: back))

theorem Shape.Respelling.ne_null {shape : Shape} {j j' : Json} (h : shape.Respelling j j') :
    j ≠ .null ∧ j' ≠ .null := by
  cases h <;> exact ⟨Json.noConfusion, Json.noConfusion⟩

/-- What is written is read back as it was, it is never null, and however a value is respelled, it
is read as the same or not at all. -/
structure Codec.Faithful {α : Type} (c : Codec α) (shape : Shape) : Prop where
  lawful : c.Lawful
  solid : ∀ a, c.write a ≠ .null
  respelled : ∀ {j j' : Json}, shape.Respelling j j' →
    (c.read j').toOption = (c.read j).toOption

/-! ## Values of checks -/

namespace Checked

variable {α β : Type}

theorem toOption_eq_some_iff {x : Checked α} {a : α} : x.toOption = some a ↔ x = Checked.ok a := by
  cases x with
  | ok b => exact ⟨fun h => congrArg Checked.ok (Option.some.inj h), fun h => by rw [h]; rfl⟩
  | error _ => exact ⟨nofun, nofun⟩

@[simp] theorem toOption_map (f : α → β) (x : Checked α) :
    (x.map f).toOption = x.toOption.map f := by
  cases x <;> rfl

@[simp] theorem toOption_ap (f : Checked (α → β)) (x : Checked α) :
    (f.ap x).toOption = f.toOption.bind fun f => x.toOption.map f := by
  cases f <;> cases x <;> rfl

@[simp] theorem toOption_under (s : Step) (x : Checked α) : (x.under s).toOption = x.toOption := by
  cases x <;> rfl

@[simp] theorem toOption_thenApply (x : Checked α) (f : Checked (α → β)) :
    (x.thenApply f).toOption = x.toOption.bind fun a => f.toOption.map fun f => f a := by
  cases x <;> cases f <;> rfl

end Checked

/-! ## Plain values and lists -/

namespace Codec

variable {α : Type} {c : Codec α} {shape : Shape}

/-- A plain value has one spelling only. -/
theorem faithful_of_lawful (h : c.Lawful) (hsolid : ∀ a, c.write a ≠ .null) :
    c.Faithful .plain where
  lawful := h
  solid := hsolid
  respelled hrespelled := by cases hrespelled

theorem raw_faithful : raw.Faithful .plain :=
  faithful_of_lawful raw_lawful fun _ => Json.noConfusion

theorem text_faithful : text.Faithful .plain :=
  faithful_of_lawful text_lawful fun _ => Json.noConfusion

theorem whole_faithful : whole.Faithful .plain :=
  faithful_of_lawful whole_lawful fun _ => Json.noConfusion

theorem choice_faithful {find : String → Option α} {name : α → String}
    (h : ∀ a, find (name a) = some a) : (choice find name).Faithful .plain :=
  faithful_of_lawful (choice_lawful h) fun _ => Json.noConfusion

/-- Items are read one by one, so a respelled item leaves the others as they are. -/
theorem readItems_respelled (h : c.Faithful shape) {j j' : Json} (hj : shape.Respelling j j')
    (front back : List Json) (n : Nat) :
    (Checked.ofList (readItems c.read n (front ++ j' :: back))).toOption =
      (Checked.ofList (readItems c.read n (front ++ j :: back))).toOption := by
  induction front generalizing n with
  | nil => simp [readItems, Checked.ofList, h.respelled hj]
  | cons x front ih => simp [readItems, Checked.ofList, ih]

theorem list_faithful (h : c.Faithful shape) : (list c).Faithful (.list shape) where
  lawful := list_lawful h.lawful
  solid _ := Json.noConfusion
  respelled hrespelled := by
    cases hrespelled with
    | item hj => exact readItems_respelled h hj _ _ 0

end Codec

/-! ## Members of objects -/

section

variable {front back : List (RawText × Json)} {key key' k : RawText} {j j' : Json}

theorem find?_eq_none_of_forall {ms : List (RawText × Json)} (h : ∀ m ∈ ms, m.1 ≠ k) :
    Json.find? k ms = none := by
  induction ms with
  | nil => rfl
  | cons m ms ih =>
      have hrest := ih fun m' hm' => h m' (List.mem_cons_of_mem _ hm')
      simp [Json.find?, h m List.mem_cons_self, hrest]

theorem find?_insert_of_ne (h : key ≠ k) :
    Json.find? k (front ++ (key, j) :: back) = Json.find? k (front ++ back) := by
  induction front with
  | nil => simp [Json.find?, h]
  | cons m front ih => simp [Json.find?, ih]

theorem find?_insert_self (h : ∀ m ∈ front, m.1 ≠ key) :
    Json.find? key (front ++ (key, j) :: back) = some j := by
  induction front with
  | nil => simp [Json.find?]
  | cons m front ih =>
      have hrest := ih fun m' hm' => h m' (List.mem_cons_of_mem _ hm')
      simp [Json.find?, h m List.mem_cons_self, hrest]

/-- Another value in the place of a member is found where the one before was, and nothing else
changes. -/
theorem find?_update (front back : List (RawText × Json)) (key k : RawText) (j j' : Json) :
    Json.find? k (front ++ (key, j') :: back) = Json.find? k (front ++ (key, j) :: back) ∨
      Json.find? k (front ++ (key, j) :: back) = some j ∧
        Json.find? k (front ++ (key, j') :: back) = some j' := by
  induction front with
  | nil => by_cases h : key = k <;> simp [Json.find?, h]
  | cons m front ih => by_cases h : m.1 = k <;> simp [Json.find?, h, ih]

end

/-! ## Entries -/

variable {ρ α : Type}

/-- An entry of a table is about a field: it has its name, writes what the field has, and reads that
back as a copy of it. -/
structure Entry.Mirrors (e : Entry ρ) (f : FieldOf ρ) (copy : ρ → ρ → ρ) : Prop where
  name : e.name = f.name
  writes : ∀ r, e.write r = (f.value r).json?
  restores : ∀ r, e.read (e.write r) = Checked.ok (copy r)
  respelled : ∀ {j j' : Json}, f.shape.Respelling j j' →
    (e.read (some j')).toOption = (e.read (some j)).toOption

section

variable {label name : String} {c : Codec α} {shape : Shape}

theorem Entry.slot_read_some {get : ρ → Slot α} {put : Slot α → ρ → ρ} {j : Json}
    (h : j ≠ .null) :
    (Entry.slot label name c get put).read (some j) =
      (c.read j).map fun a => put (.set a) := by
  cases j <;> first | rfl | exact absurd rfl h

theorem Entry.slot_mirrors (hc : c.Faithful shape) (get : ρ → Slot α)
    (put : Slot α → ρ → ρ) :
    (Entry.slot label name c get put).Mirrors ⟨name, fun r => (get r).map c.write, shape⟩
      fun r => put (get r) where
  name := rfl
  writes r := by
    show (match get r with
      | .absent => none
      | .null => some .null
      | .set a => some (c.write a)) = ((get r).map c.write).json?
    cases get r <;> rfl
  restores r := by
    show (Entry.slot label name c get put).read (match get r with
      | .absent => none
      | .null => some .null
      | .set a => some (c.write a)) = Checked.ok (put (get r))
    cases get r with
    | absent => rfl
    | null => rfl
    | set a =>
        dsimp only
        rw [Entry.slot_read_some (hc.solid a), hc.lawful a]
        rfl
  respelled h := by
    rw [Entry.slot_read_some h.ne_null.1, Entry.slot_read_some h.ne_null.2,
      Checked.toOption_map, Checked.toOption_map, hc.respelled h]

theorem Entry.required_mirrors (hc : c.Faithful shape) (get : ρ → α)
    (put : α → ρ → ρ) :
    (Entry.required label name c get put).Mirrors ⟨name, fun r => .set (c.write (get r)), shape⟩
      fun r => put (get r) where
  name := rfl
  writes _ := rfl
  restores r := by
    show (c.read (c.write (get r))).map put = Checked.ok (put (get r))
    rw [hc.lawful]
    rfl
  respelled h := by
    show ((c.read _).map put).toOption = ((c.read _).map put).toOption
    rw [Checked.toOption_map, Checked.toOption_map, hc.respelled h]

end

/-! ## Tables -/

/-- The entries of a table are about some fields one by one, and together they copy a structure. -/
inductive Portrays : List (Entry ρ) → List (FieldOf ρ) → (ρ → ρ → ρ) → Prop
  | nil : Portrays [] [] fun _ acc => acc
  | cons {e : Entry ρ} {f : FieldOf ρ} {copy rest : ρ → ρ → ρ} {table : List (Entry ρ)}
      {fields : List (FieldOf ρ)} (head : e.Mirrors f copy) (tail : Portrays table fields rest) :
      Portrays (e :: table) (f :: fields) fun r acc => rest r (copy r acc)

namespace Portrays

variable {table : List (Entry ρ)} {fields : List (FieldOf ρ)} {copy : ρ → ρ → ρ}

theorem field_of_mem (h : Portrays table fields copy) {e : Entry ρ} (he : e ∈ table) :
    ∃ f ∈ fields, ∃ copy, e.Mirrors f copy := by
  induction h with
  | nil => exact absurd he List.not_mem_nil
  | cons head tail ih =>
      rcases List.mem_cons.1 he with rfl | he
      · exact ⟨_, List.mem_cons_self, _, head⟩
      · obtain ⟨f, hf, hmirrors⟩ := ih he
        exact ⟨f, List.mem_cons_of_mem _ hf, hmirrors⟩

theorem payload_eq (h : Portrays table fields copy) (hlabelled : Labelled table) (r : ρ) :
    payload table r = sent fields r := by
  unfold payload sent
  induction h with
  | nil => rfl
  | @cons e f _ _ _ _ head tail ih =>
      obtain ⟨hlabel, hrest⟩ := List.forall_mem_cons.1 hlabelled
      simp only [List.filterMap_cons, head.writes, hlabel, head.name, ih hrest]

end Portrays

/-- A field that is sent is found under its key in camel case. -/
theorem mem_sent {fields : List (FieldOf ρ)} {r : ρ} {key : RawText} {j : Json} :
    (key, j) ∈ sent fields r ↔
      ∃ f ∈ fields, key = camelCase f.name ∧ (f.value r).json? = some j := by
  simp only [sent, List.mem_filterMap, Option.map_eq_some_iff, Prod.mk.injEq]
  constructor
  · rintro ⟨f, hf, _, hj, rfl, rfl⟩
    exact ⟨f, hf, rfl, hj⟩
  · rintro ⟨f, hf, rfl, hj⟩
    exact ⟨f, hf, j, hj, rfl, rfl⟩

theorem Apart.of_cons {f : FieldOf ρ} {fields : List (FieldOf ρ)} (h : Apart (f :: fields)) :
    Apart fields ∧ ∀ g ∈ fields, ∀ key ∈ keysOf f.name, key ∉ keysOf g.name := by
  obtain ⟨hfirst, hrest⟩ := List.pairwise_cons.1 h
  exact ⟨hrest, fun g hg => hfirst g.name (List.mem_map_of_mem hg)⟩

/-- Two fields that share a key have one name. -/
theorem Apart.eq_of_key {fields : List (FieldOf ρ)} (h : Apart fields) {f g : FieldOf ρ}
    (hf : f ∈ fields) (hg : g ∈ fields) {key : RawText} (hkey : key ∈ keysOf f.name)
    (hkey' : key ∈ keysOf g.name) : f = g := by
  induction fields with
  | nil => exact absurd hf List.not_mem_nil
  | cons x fields ih =>
      obtain ⟨hrest, hfirst⟩ := h.of_cons
      rcases List.mem_cons.1 hf with hfx | hf <;> rcases List.mem_cons.1 hg with hgx | hg
      · rw [hfx, hgx]
      · exact absurd hkey' (hfirst g hg key (hfx ▸ hkey))
      · exact absurd hkey (hfirst f hf key (hgx ▸ hkey'))
      · exact ih hrest hf hg

theorem camelCase_mem_keysOf (name : String) : ↑(camelCase name) ∈ keysOf name :=
  List.mem_cons_self

theorem sent_nodup {fields : List (FieldOf ρ)} (h : Apart fields) (r : ρ) :
    ((sent fields r).map Prod.fst).Nodup := by
  induction fields with
  | nil => exact List.nodup_nil
  | cons f fields ih =>
      obtain ⟨hrest, hfirst⟩ := h.of_cons
      cases hj : (f.value r).json? with
      | none => simpa [sent, hj] using ih hrest
      | some j =>
          have hcons : sent (f :: fields) r = (↑(camelCase f.name), j) :: sent fields r := by
            simp [sent, hj]
          rw [hcons, List.map_cons, List.nodup_cons]
          refine ⟨fun hmem => ?_, ih hrest⟩
          obtain ⟨⟨key, j'⟩, hsent, hkey⟩ := List.mem_map.1 hmem
          obtain ⟨g, hg, rfl, -⟩ := mem_sent.1 hsent
          have hkey : RawText.whole (camelCase g.name) = camelCase f.name := hkey
          exact hfirst g hg _ (camelCase_mem_keysOf f.name) (hkey ▸ camelCase_mem_keysOf g.name)

/-- A codec sends the fields of a structure that are set, and reads them back. -/
structure Codec.Conveys (c : Codec ρ) (fields : List (FieldOf ρ)) : Prop where
  apart : Apart fields
  writes : ∀ r, c.write r = .obj (sent fields r)
  faithful : c.Faithful (.ofFields fields)

/-! ## Records that are sent and read back -/

/-- What is not the key of a set field in camel case is not found in what is sent. -/
theorem find?_sent_eq_none {fields : List (FieldOf ρ)} {r : ρ} {key : RawText}
    (h : ∀ f ∈ fields, camelCase f.name = key → (f.value r).json? = none) :
    Json.find? key (sent fields r) = none := by
  apply find?_eq_none_of_forall
  rintro ⟨key', j⟩ hmem rfl
  obtain ⟨f, hf, hkey, hj⟩ := mem_sent.1 hmem
  rw [h f hf hkey.symm] at hj
  cases hj

theorem find?_sent_self {fields : List (FieldOf ρ)} (h : Apart fields) {f : FieldOf ρ}
    (hf : f ∈ fields) (r : ρ) :
    Json.find? (camelCase f.name) (sent fields r) = (f.value r).json? := by
  cases hj : (f.value r).json? with
  | none =>
      apply find?_sent_eq_none
      intro g hg hkey
      have hsame : g = f := h.eq_of_key hg hf (camelCase_mem_keysOf g.name)
        (hkey ▸ camelCase_mem_keysOf f.name)
      rw [hsame, hj]
  | some j =>
      obtain ⟨front, back, hsent⟩ := List.append_of_mem (mem_sent.2 ⟨f, hf, rfl, hj⟩)
      -- Keys are sent once, so nothing in front hides the member.
      have hnodup := sent_nodup h r
      rw [hsent, List.map_append, List.map_cons] at hnodup
      rw [hsent]
      apply find?_insert_self
      intro m hm hkey
      have hfront := List.disjoint_of_nodup_append hnodup (List.mem_map_of_mem hm)
      exact hfront (hkey ▸ List.mem_cons_self)

namespace Portrays

variable {table : List (Entry ρ)} {fields : List (FieldOf ρ)} {copy : ρ → ρ → ρ}

/-- An entry finds in what is sent just what it wrote. -/
theorem find?_payload (h : Portrays table fields copy) (hlabelled : Labelled table)
    (hapart : Apart fields) {e : Entry ρ} (he : e ∈ table) (r : ρ) :
    e.find? (payload table r) = e.write r := by
  obtain ⟨f, hf, _, hmirrors⟩ := h.field_of_mem he
  have hlabel : Json.find? e.label (payload table r) = e.write r := by
    rw [h.payload_eq hlabelled, hlabelled e he, hmirrors.name, hmirrors.writes]
    exact find?_sent_self hapart hf r
  unfold Entry.find?
  rw [hlabel]
  cases hwrite : e.write r with
  | some j => rfl
  | none =>
      -- The plain name is no key in camel case of any other field.
      rw [Option.none_or, h.payload_eq hlabelled]
      apply find?_sent_eq_none
      intro g hg hkey
      have hsame : g = f := by
        refine hapart.eq_of_key hg hf (camelCase_mem_keysOf g.name) ?_
        rw [hkey, hmirrors.name]
        exact List.mem_cons_of_mem _ List.mem_cons_self
      rw [hsame, ← hmirrors.writes, hwrite]

/-- Entries that find what they wrote copy the structure, from whatever they start. -/
theorem readEntries_eq (h : Portrays table fields copy) {ms : List (RawText × Json)} {r : ρ}
    (hfound : ∀ e ∈ table, e.find? ms = e.write r) (acc : ρ) :
    readEntries ms table acc = Checked.ok (copy r acc) := by
  unfold readEntries
  induction h generalizing acc with
  | nil => rfl
  | @cons e f copy rest table fields head tail ih =>
      have hread : e.readFrom ms = Checked.ok (copy r) := by
        unfold Entry.readFrom
        rw [hfound e List.mem_cons_self, head.restores]
        rfl
      rw [List.foldl_cons, hread]
      exact ih (fun e he => hfound e (List.mem_cons_of_mem _ he)) (copy r acc)

end Portrays

/-! ## Records that are respelled -/

/-- Members that all entries read alike give the same structure, or none. -/
theorem readEntries_alike {table : List (Entry ρ)} {ms ms' : List (RawText × Json)}
    (h : ∀ e ∈ table, (e.read (e.find? ms')).toOption = (e.read (e.find? ms)).toOption)
    (empty : ρ) :
    (readEntries ms' table empty).toOption = (readEntries ms table empty).toOption := by
  have alike : ∀ {acc acc' : Checked ρ}, acc'.toOption = acc.toOption →
      (table.foldl (fun acc e => acc.thenApply (e.readFrom ms')) acc').toOption =
        (table.foldl (fun acc e => acc.thenApply (e.readFrom ms)) acc).toOption := by
    induction table with
    | nil => exact fun hacc => hacc
    | cons e table ih =>
        intro acc acc' hacc
        apply ih fun e' he' => h e' (List.mem_cons_of_mem _ he')
        simp only [Checked.toOption_thenApply, Entry.readFrom, Checked.toOption_under, hacc,
          h e List.mem_cons_self]
  exact alike rfl

namespace Entry.Mirrors

variable {e : Entry ρ} {f : FieldOf ρ} {copy : ρ → ρ → ρ} {front back : List (RawText × Json)}
variable {key key' : RawText} {j j' : Json}

theorem mem_keysOf (h : e.Mirrors f copy) (hlabel : e.label = camelCase e.name) :
    ↑e.label ∈ keysOf f.name ∧ ↑e.name ∈ keysOf f.name := by
  rw [hlabel, h.name]
  exact ⟨List.mem_cons_self, List.mem_cons_of_mem _ List.mem_cons_self⟩

/-- An entry does not see a member whose key is not one of its own. -/
theorem find?_of_notMem (h : e.Mirrors f copy) (hlabel : e.label = camelCase e.name)
    (hkey : key ∉ keysOf f.name) :
    e.find? (front ++ (key, j) :: back) = e.find? (front ++ back) := by
  have hcamel : key ≠ e.label := fun heq => hkey (heq ▸ (h.mem_keysOf hlabel).1)
  have hplain : key ≠ e.name := fun heq => hkey (heq ▸ (h.mem_keysOf hlabel).2)
  unfold Entry.find?
  rw [find?_insert_of_ne hcamel, find?_insert_of_ne hplain]

/-- The only member of a field is found under either key. -/
theorem find?_of_sole (h : e.Mirrors f copy) (hlabel : e.label = camelCase e.name)
    (hkey : key ∈ keysOf f.name) (hsole : ∀ m ∈ front ++ back, m.1 ∉ keysOf f.name) :
    e.find? (front ++ (key, j) :: back) = some j := by
  have hfront : ∀ m ∈ front, m.1 ≠ key := fun m hm heq =>
    hsole m (List.mem_append_left _ hm) (heq ▸ hkey)
  have hunlabelled : ∀ m ∈ front ++ back, m.1 ≠ e.label := fun m hm heq =>
    hsole m hm (heq ▸ (h.mem_keysOf hlabel).1)
  unfold Entry.find?
  by_cases hcamel : key = e.label
  · subst hcamel
    rw [find?_insert_self hfront]
    rfl
  · have hname : key = e.name := by
      rw [hlabel, h.name] at hcamel
      rw [h.name]
      simpa [keysOf, hcamel] using hkey
    subst hname
    rw [find?_insert_of_ne hcamel, find?_eq_none_of_forall hunlabelled, Option.none_or,
      find?_insert_self hfront]

/-- An entry finds another value in the place of a member where it found the one before. -/
theorem find?_updated (e : Entry ρ) (front back : List (RawText × Json)) (key : RawText)
    (j j' : Json) :
    e.find? (front ++ (key, j') :: back) = e.find? (front ++ (key, j) :: back) ∨
      e.find? (front ++ (key, j) :: back) = some j ∧
        e.find? (front ++ (key, j') :: back) = some j' := by
  unfold Entry.find?
  rcases find?_update front back key e.label j j' with hlabel | ⟨hlabel, hlabel'⟩
  · rw [hlabel]
    cases Json.find? e.label (front ++ (key, j) :: back) with
    | some found => exact .inl rfl
    | none => exact find?_update front back key e.name j j'
  · rw [hlabel, hlabel']
    exact .inr ⟨rfl, rfl⟩

end Entry.Mirrors

namespace Portrays

variable {table : List (Entry ρ)} {fields : List (FieldOf ρ)} {copy : ρ → ρ → ρ}

theorem mem_shape {name : String} {shape : Shape}
    (h : (name, shape) ∈ fields.map fun f => (f.name, f.shape)) :
    ∃ f ∈ fields, f.name = name ∧ f.shape = shape := by
  obtain ⟨f, hf, heq⟩ := List.mem_map.1 h
  exact ⟨f, hf, congrArg Prod.fst heq, congrArg Prod.snd heq⟩

/-- One change of the spelling of a record is not seen by any entry. -/
theorem read_respelled (h : Portrays table fields copy) (hlabelled : Labelled table)
    (hapart : Apart fields) {ms ms' : List (RawText × Json)}
    (hrespelled : (Shape.ofFields fields).Respelling (.obj ms) (.obj ms')) {e : Entry ρ}
    (he : e ∈ table) :
    (e.read (e.find? ms')).toOption = (e.read (e.find? ms)).toOption := by
  obtain ⟨f, hf, _, hmirrors⟩ := h.field_of_mem he
  have hlabel := hlabelled e he
  cases hrespelled with
  | @rename _ name key key' _ front back j hfield hkey hkey' hsole =>
      obtain ⟨g, hg, rfl, -⟩ := mem_shape hfield
      by_cases hown : key ∈ keysOf f.name
      · obtain rfl : f = g := hapart.eq_of_key hf hg hown hkey
        rw [hmirrors.find?_of_sole hlabel hkey hsole, hmirrors.find?_of_sole hlabel hkey' hsole]
      · have hown' : key' ∉ keysOf f.name := by
          intro hmem
          obtain rfl : f = g := hapart.eq_of_key hf hg hmem hkey'
          exact hown hkey
        rw [hmirrors.find?_of_notMem hlabel hown, hmirrors.find?_of_notMem hlabel hown']
  | @unknown _ key front back j hunknown =>
      have hforeign : key ∉ keysOf f.name :=
        hunknown (f.name, f.shape) (List.mem_map_of_mem (f := fun f => (f.name, f.shape)) hf)
      rw [hmirrors.find?_of_notMem hlabel hforeign]
  | @member _ name key shape front back j j' hfield hkey hj =>
      obtain ⟨g, hg, rfl, rfl⟩ := mem_shape hfield
      by_cases hown : key ∈ keysOf f.name
      · obtain rfl : f = g := hapart.eq_of_key hf hg hown hkey
        rcases Entry.Mirrors.find?_updated e front back key j j' with hsame | ⟨hj₁, hj₂⟩
        · rw [hsame]
        · rw [hj₁, hj₂]
          exact hmirrors.respelled hj
      · rw [hmirrors.find?_of_notMem hlabel hown, hmirrors.find?_of_notMem hlabel hown]

/-- A record whose entries are about its fields, apart from each other and all of them, is
faithful. -/
theorem record_faithful (h : Portrays table fields copy) (hlabelled : Labelled table)
    (hapart : Apart fields) {empty : ρ} (hcopy : ∀ r, copy r empty = r) :
    (Codec.record table empty).Faithful (.ofFields fields) where
  lawful r := by
    show readEntries (payload table r) table empty = Checked.ok r
    rw [h.readEntries_eq (fun e he => h.find?_payload hlabelled hapart he r), hcopy]
  solid _ := Json.noConfusion
  respelled {j j'} hrespelled := by
    have hobjects : ∃ ms ms', j = .obj ms ∧ j' = .obj ms' := by
      cases hrespelled <;> exact ⟨_, _, rfl, rfl⟩
    obtain ⟨ms, ms', rfl, rfl⟩ := hobjects
    exact readEntries_alike (fun e he => h.read_respelled hlabelled hapart hrespelled he) empty

theorem conveys (h : Portrays table fields copy) (hlabelled : Labelled table)
    (hapart : Apart fields) {empty : ρ} (hcopy : ∀ r, copy r empty = r) :
    (Codec.record table empty).Conveys fields where
  apart := hapart
  writes r := congrArg Json.obj (h.payload_eq hlabelled r)
  faithful := h.record_faithful hlabelled hapart hcopy

end Portrays

end Schema
end TenderDesk
