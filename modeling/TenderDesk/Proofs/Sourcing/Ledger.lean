import TenderDesk.Proofs.Sourcing.Receipt

/-!
# Ledger — the records of the platform, as far as events tell them

A `Card` is a record cut down to id, reference code and title; a ledger lists the cards of all
records. Everything else about a record may change without anybody writing it.

* `Accepts` is the contract of the platform for a change that it says was made: a new record gets an
  id that no other has, a member that was sent replaces what was there, and nothing else changes.
* A record is looked up by filtering, so the lemmas say what is left of a filtered ledger.
-/

namespace TenderDesk
namespace Sourcing

open Schema

structure Card where
  id : String
  reference : Option String
  title : Option String
  deriving DecidableEq, Repr

/-- A field after a member was sent for it: null takes the value away. -/
def onto {α : Type} : Slot α → Option α → Option α
  | .absent, old => old
  | .null, _ => none
  | .set a, _ => some a

def Card.merge (card : Card) (head : Head) : Card :=
  { card with
    reference := onto head.reference card.reference
    title := onto head.title card.title }

/-- The ledger after a partial record was merged into the record that it names. -/
def absorb (rfx : Rfx) (cards : List Card) : List Card :=
  match rfx.head.get? with
  | none => cards
  | some head => cards.map fun card =>
      if head.id.get? = some card.id then card.merge head else card

/-- The cards under an id. -/
def under (id : String) (cards : List Card) : List Card :=
  cards.filter fun card => card.id == id

/-- The title that a record is sent with. -/
def Rfx.title? (rfx : Rfx) : Option String :=
  rfx.head.get?.bind (·.title.get?)

/-- What a change that was made does to the ledger. -/
inductive Accepts (cards : List Card) : Request → Receipt → List Card → Prop
  | created (rfx : Rfx) (receipt : Receipt) (id reference : String) (hid : receipt.id = .set id)
      (hne : id ≠ "") (hreference : receipt.reference = .set reference)
      (hfresh : under id cards = []) :
      Accepts cards (.write ⟨.createFromTemplate, rfx⟩) receipt
        (cards ++ [⟨id, some reference, rfx.title?⟩])
  | merged (change : Change) (hcommand : change.command ≠ .createFromTemplate)
      (receipt : Receipt) : Accepts cards (.write change) receipt (absorb change.rfx cards)
  | uploaded (fileName : String) (data : List UInt8) (change : Change) (receipt : Receipt) :
      Accepts cards (.upload fileName data change) receipt (absorb change.rfx cards)
  | published (order : PublishOrder) (receipt : Receipt) :
      Accepts cards (.publish order) receipt cards

section

variable {cards : List Card} {card : Card} {id : String}

theorem mem_under : card ∈ under id cards ↔ card ∈ cards ∧ card.id = id := by
  unfold under
  rw [List.mem_filter, beq_iff_eq]

theorem under_concat_of_ne (h : card.id ≠ id) : under id (cards ++ [card]) = under id cards := by
  unfold under
  rw [List.filter_append]
  simp [h]

theorem under_concat_self (h : card.id = id) :
    under id (cards ++ [card]) = under id cards ++ [card] := by
  unfold under
  rw [List.filter_append]
  simp [h]

/-- Merging never changes an id, so it does not matter whether one looks up before or after. -/
theorem under_absorb {rfx : Rfx} {head : Head} (h : rfx.head = .set head) :
    under id (absorb rfx cards) = (under id cards).map fun card =>
      if head.id.get? = some card.id then card.merge head else card := by
  have hhead : rfx.head.get? = some head := by rw [h]; rfl
  unfold under absorb
  rw [hhead]
  simp only
  rw [List.filter_map]
  congr 1
  apply List.filter_congr
  intro card _
  simp only [Function.comp_apply]
  split <;> rfl

/-- A change that tells no more than id and reference code of a record changes no card. -/
theorem absorb_key {rfx : Rfx} {reference title : Option String}
    (h : rfx.head = .set (Head.key (some id) reference))
    (hcard : under id cards = [⟨id, reference, title⟩]) : absorb rfx cards = cards := by
  have hhead : rfx.head.get? = some (Head.key (some id) reference) := by rw [h]; rfl
  unfold absorb
  rw [hhead]
  refine (List.map_congr_left fun card hmem => ?_).trans (List.map_id cards)
  split
  · rename_i hid
    have hid : card.id = id := (Option.some.inj hid).symm
    have hunder : card ∈ under id cards := mem_under.2 ⟨hmem, hid⟩
    rw [hcard, List.mem_singleton] at hunder
    subst hunder
    -- The reference code that is sent along is the one that the card has.
    cases reference <;> rfl
  · rfl

end

end Sourcing
end TenderDesk
