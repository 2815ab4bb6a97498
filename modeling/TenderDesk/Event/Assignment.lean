import TenderDesk.Failure

/-!
# Assignment — an event gets its kind once

The state of an event is the name of its kind as the store holds it, which may also be a name that
no kind has. Only from the initial state does an assignment lead to a concrete kind.
-/

namespace TenderDesk
namespace EventKind

/-- The state that a stored name stands for; an empty one is the initial state. -/
def stateOf (stored : Option String) : String :=
  match stored with
  | some s => if s.isEmpty then EventKind.tbd.name else s
  | none => EventKind.tbd.name

/-- The kind that an event in a state has after an assignment. -/
def assign (event state : String) (kind : EventKind) : Except Failure EventKind :=
  -- The initial kind is refused in every state, so it is looked at first.
  if kind = .tbd then .error (.initialKindAssigned event)
  else if state = EventKind.tbd.name then .ok kind
  else .error (.kindAlreadyAssigned state kind)

/-- The kind of a name, where every name should have one. -/
def ofName (s : String) : Except Failure EventKind :=
  match ofName? s with
  | some k => .ok k
  | none => .error (.unknownName (Text.quoted s) "EventType")

theorem assign_eq_ok_iff {event state : String} {kind result : EventKind} :
    assign event state kind = .ok result ↔
      kind ≠ .tbd ∧ state = EventKind.tbd.name ∧ result = kind := by
  unfold assign
  split
  · simp_all
  · split <;> simp_all [eq_comm]

/-- Once a concrete kind is assigned, no further assignment succeeds. -/
theorem assign_after_assign {event state : String} {kind result : EventKind}
    (h : assign event state kind = .ok result) (next : EventKind) :
    ∃ f, assign event result.name next = .error f := by
  obtain ⟨hk, _, rfl⟩ := assign_eq_ok_iff.1 h
  by_cases hn : next = .tbd
  · subst hn
    exact ⟨.initialKindAssigned event, by simp [assign]⟩
  · exact ⟨.kindAlreadyAssigned result.name next,
      by rw [assign, if_neg hn, if_neg fun e => hk (name_injective e)]⟩

@[simp] theorem ofName_name (k : EventKind) : ofName k.name = .ok k := by
  simp [ofName]

end EventKind
end TenderDesk
