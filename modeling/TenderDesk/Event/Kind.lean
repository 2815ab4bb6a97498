import TenderDesk.Schema.Codec

/-!
# Kind — event kinds and who keeps what belongs to an event

* An event starts without a kind of its own (`tbd`) and gets a concrete one once.
* `EventKind.owner` is the only place that decides where suppliers and documents are kept: with
  the assessment for `fca` and `daa`, on the sourcing platform for every other concrete kind.
-/

namespace TenderDesk

inductive EventKind
  | eoi
  | rfi
  | ca
  | da
  | fc
  | fca
  | daa
  | tbd
  deriving DecidableEq, Repr, Inhabited

/-- Who keeps the suppliers and documents of an event. -/
inductive Owner
  /-- Nobody yet. -/
  | nobody
  | assessment
  | platform
  deriving DecidableEq, Repr

namespace EventKind

def all : List EventKind :=
  [.eoi, .rfi, .ca, .da, .fc, .fca, .daa, .tbd]

def name : EventKind → String
  | .eoi => "EOI"
  | .rfi => "RFI"
  | .ca => "CA"
  | .da => "DA"
  | .fc => "FC"
  | .fca => "FCA"
  | .daa => "DAA"
  | .tbd => "TBD"

/-- The kind of a name, which is matched exactly. -/
def ofName? (s : String) : Option EventKind :=
  all.find? fun k => k.name == s

def owner : EventKind → Owner
  | .tbd => .nobody
  | .fca | .daa => .assessment
  | _ => .platform

def codec : Schema.Codec EventKind :=
  .choice ofName? name

/-- Kinds that can be asked for: the initial one cannot. -/
def concreteCodec : Schema.Codec EventKind :=
  codec.satisfying (· != .tbd) "Event type must be a concrete value"

theorem mem_all (k : EventKind) : k ∈ all := by
  cases k <;> decide

@[simp] theorem ofName?_name (k : EventKind) : ofName? k.name = some k := by
  cases k <;> decide

theorem ofName?_eq_some_iff {s : String} {k : EventKind} : ofName? s = some k ↔ s = k.name := by
  constructor
  · intro h
    have := List.find?_some h
    exact (beq_iff_eq.1 this).symm
  · rintro rfl
    exact ofName?_name k

theorem name_injective {k l : EventKind} (h : k.name = l.name) : k = l := by
  have := congrArg ofName? h
  simpa using this

theorem owner_eq_nobody_iff {k : EventKind} : k.owner = .nobody ↔ k = .tbd := by
  cases k <;> decide

end EventKind

/-- The word for an owner in answers. -/
def Owner.word : Owner → String
  | .nobody => "placeholder"
  | .assessment => "assessment"
  | .platform => "market"

end TenderDesk
