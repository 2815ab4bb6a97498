import TenderDesk.Proofs.Json.Extent
import TenderDesk.Proofs.Sourcing.Export

/-!
# Extent — the file ids that a shown record can have

File ids come as integers, flags, doubles or texts, and none of these gives an integer that is too
long to be written out again: `Snapshot.isShort_of_ofReply` says so of every record that the
platform can show.

* `Codec.Yields c P`: reading a value without overlong integers gives a value with `P`.
* `Entry.Keeps e Q`: reading such a member leaves `Q` true of the structure that is filled.
-/

namespace TenderDesk

namespace Number

/-! ## Integers in texts -/

theorem of_ungroup? {cs ds : List Char} (h : ungroup? cs = some ds) :
    (∀ c ∈ ds, Text.isDigit c = true) ∧ ds.length ≤ cs.length := by
  induction cs using ungroup?.induct generalizing ds with
  | case1 => cases h
  | case2 c hc =>
      rw [ungroup?, if_pos hc] at h
      cases h
      simpa using hc
  | case3 c hc =>
      rw [ungroup?, if_neg hc] at h
      cases h
  | case4 c d rest hc ih =>
      rw [ungroup?, if_pos hc] at h
      obtain ⟨ds, hds, rfl⟩ := Option.map_eq_some_iff.1 h
      obtain ⟨hdigits, hlength⟩ := ih hds
      refine ⟨List.forall_mem_cons.2 ⟨hc, hdigits⟩, ?_⟩
      simp only [List.length_cons] at hlength ⊢
      omega
  | case5 c d rest hc =>
      rw [ungroup?, if_neg hc] at h
      cases h
  | case6 c rest hone hbar hc ih =>
      rw [ungroup?.eq_4 _ _ hone hbar, if_pos hc] at h
      obtain ⟨ds, hds, rfl⟩ := Option.map_eq_some_iff.1 h
      obtain ⟨hdigits, hlength⟩ := ih hds
      refine ⟨List.forall_mem_cons.2 ⟨hc, hdigits⟩, ?_⟩
      simp only [List.length_cons]
      omega
  | case7 c rest hone hbar hc =>
      rw [ungroup?.eq_4 _ _ hone hbar, if_neg hc] at h
      cases h

theorem length_trimBy_le (p : Char → Bool) (cs : List Char) :
    (Text.trimBy p cs).length ≤ cs.length := by
  have hfront : (cs.dropWhile p).length ≤ cs.length := List.length_dropWhile_le p cs
  have hback := List.length_dropWhile_le p (cs.dropWhile p).reverse
  simp only [Text.trimBy, List.length_reverse] at hback ⊢
  omega

theorem length_splitSign_le (cs : List Char) : (splitSign cs).2.length ≤ cs.length := by
  unfold splitSign
  split <;> simp

theorem length_dropPointZeros_le (cs : List Char) : (dropPointZeros cs).length ≤ cs.length := by
  unfold dropPointZeros
  simp only
  split
  · split
    · exact (List.takeWhile_prefix _).length_le
    · exact Nat.le_refl _
  · exact Nat.le_refl _

theorem isShort_of_readWhole? {s : String} {i : Int} (h : readWhole? s = some i)
    (hlength : s.length ≤ maxDigits) : IsShort i := by
  obtain ⟨ds, hds, rfl⟩ := Option.map_eq_some_iff.1 h
  obtain ⟨hdigits, hread⟩ := of_ungroup? hds
  have hpoint := length_dropPointZeros_le (splitSign (Text.trimBy Text.isBlank s.toList)).2
  have hsign := length_splitSign_le (Text.trimBy Text.isBlank s.toList)
  have htrim := length_trimBy_le Text.isBlank s.toList
  have htext : s.toList.length = s.length := String.length_toList
  have hdigitsLength : ds.length ≤ maxDigits := by
    calc ds.length ≤ (dropPointZeros (splitSign (Text.trimBy Text.isBlank s.toList)).2).length :=
          hread
      _ ≤ maxDigits := by omega
  exact isShort_signed _ hdigits hdigitsLength

end Number

namespace Schema

open Number

/-! ## Codecs -/

/-- What is read from a value without overlong integers has the property. -/
def Codec.Yields {α : Type} (c : Codec α) (P : α → Prop) : Prop :=
  ∀ ⦃j : Json⦄, j.Short → ∀ ⦃a : α⦄, c.read j = Checked.ok a → P a

/-- Reading the member keeps the property of the structure. -/
def Entry.Keeps {ρ : Type} (e : Entry ρ) (Q : ρ → Prop) : Prop :=
  ∀ ⦃m : Option Json⦄, (∀ j ∈ m, j.Short) → ∀ ⦃f : ρ → ρ⦄, e.read m = Checked.ok f →
    ∀ ⦃r : ρ⦄, Q r → Q (f r)

theorem Checked.map_eq_ok {α β : Type} {x : Checked α} {f : α → β} {b : β}
    (h : x.map f = Checked.ok b) : ∃ a, x = Checked.ok a ∧ f a = b := by
  cases x with
  | error faults => cases h
  | ok a => exact ⟨a, rfl, Except.ok.inj h⟩

theorem Checked.ap_eq_ok {α β : Type} {x : Checked (α → β)} {y : Checked α} {b : β}
    (h : x.ap y = Checked.ok b) : ∃ f a, x = Checked.ok f ∧ y = Checked.ok a ∧ f a = b := by
  cases x with
  | error faults => cases y <;> cases h
  | ok f =>
      cases y with
      | error faults => cases h
      | ok a => exact ⟨f, a, rfl, rfl, Except.ok.inj h⟩

theorem Checked.under_eq_ok {α : Type} {s : Step} {x : Checked α} {a : α}
    (h : x.under s = Checked.ok a) : x = Checked.ok a := by
  cases x with
  | error faults => cases h
  | ok b => exact h

theorem Codec.whole_yields : Codec.whole.Yields IsShort := by
  have hword : ∀ {i : Int}, Codec.fitsWord i = true → IsShort i := by
    intro i hfits
    simp only [Codec.fitsWord, Bool.and_eq_true, decide_eq_true_eq] at hfits
    exact isShort_of_lt (by omega)
  intro j hj i h
  cases hj with
  | int hshort =>
      cases h
      exact hshort
  | bool b =>
      cases h
      exact isShort_of_lt (by cases b <;> decide)
  | real x =>
      have h : Codec.wholeOfReal x = Checked.ok i := h
      unfold Codec.wholeOfReal at h
      split at h
      · cases h
      · split at h
        · cases h
        · split at h
          · rename_i hfits
            cases h
            exact hword hfits
          · cases h
  | str s =>
      cases s with
      | torn s => cases h
      | whole s =>
          have h : Codec.wholeOfText s = Checked.ok i := h
          unfold Codec.wholeOfText at h
          split at h
          · cases h
          · rename_i hlength
            split at h
            · rename_i hread
              cases h
              exact isShort_of_readWhole? hread (Nat.not_lt.1 hlength)
            · cases h
  | _ => cases h

theorem Codec.list_yields {α : Type} {c : Codec α} {P : α → Prop} (hc : c.Yields P) :
    (Codec.list c).Yields fun as => ∀ a ∈ as, P a := by
  have hitems : ∀ (xs : List Json) (n : Nat) (as : List α), (∀ x ∈ xs, x.Short) →
      Checked.ofList (Codec.readItems c.read n xs) = Checked.ok as → ∀ a ∈ as, P a := by
    intro xs
    induction xs with
    | nil =>
        intro n as _ h
        cases h
        simp
    | cons x xs ih =>
        intro n as hxs h
        obtain ⟨f, rest, hf, hrest, rfl⟩ := Checked.ap_eq_ok h
        obtain ⟨a, ha, rfl⟩ := Checked.map_eq_ok hf
        have hfirst : P a := hc (hxs x List.mem_cons_self) (Checked.under_eq_ok ha)
        have hothers : ∀ a ∈ rest, P a :=
          ih (n + 1) rest (fun y hy => hxs y (List.mem_cons_of_mem _ hy)) hrest
        exact List.forall_mem_cons.2 ⟨hfirst, hothers⟩
  intro j hj as h
  cases hj with
  | arr hxs => exact hitems _ 0 as hxs h
  | _ => cases h

/-- An entry keeps what holds of the structure whichever value with `P` is put into it. -/
theorem Entry.slot_keeps {ρ α : Type} {label name : String} {c : Codec α} {get : ρ → Slot α}
    {put : Slot α → ρ → ρ} {P : α → Prop} {Q : ρ → Prop} (hc : c.Yields P)
    (hput : ∀ v r, (∀ a, v = .set a → P a) → Q r → Q (put v r)) :
    (Entry.slot label name c get put).Keeps Q := by
  intro m hm f h r hr
  cases m with
  | none =>
      cases h
      exact hput _ _ (fun a ha => by cases ha) hr
  | some j =>
      have hj : j.Short := hm j rfl
      have hvalue : ∀ {f : ρ → ρ}, ((c.read j).map fun a => put (.set a)) = Checked.ok f →
          Q (f r) := by
        intro f hf
        obtain ⟨a, ha, rfl⟩ := Checked.map_eq_ok hf
        refine hput _ _ (fun b hb => ?_) hr
        cases hb
        exact hc hj ha
      cases hj with
      | null =>
          cases h
          exact hput _ _ (fun a ha => by cases ha) hr
      | _ => exact hvalue h

/-- An entry keeps what does not depend on it. -/
theorem Entry.slot_keeps_of_forall {ρ α : Type} {label name : String} {c : Codec α}
    {get : ρ → Slot α} {put : Slot α → ρ → ρ} {Q : ρ → Prop} (hput : ∀ v r, Q r → Q (put v r)) :
    (Entry.slot label name c get put).Keeps Q :=
  Entry.slot_keeps (P := fun _ => True) (fun _ _ _ _ => trivial) fun v r _ => hput v r

theorem Codec.record_yields {ρ : Type} {table : List (Entry ρ)} {empty : ρ} {Q : ρ → Prop}
    (hempty : Q empty) (htable : ∀ e ∈ table, e.Keeps Q) : (Codec.record table empty).Yields Q := by
  have hentries : ∀ (table : List (Entry ρ)) (ms : List (RawText × Json)) (acc : Checked ρ) (r : ρ),
      (∀ e ∈ table, e.Keeps Q) → (∀ m ∈ ms, m.2.Short) → (∀ r, acc = Checked.ok r → Q r) →
      table.foldl (fun acc e => acc.thenApply (e.readFrom ms)) acc = Checked.ok r → Q r := by
    intro table ms
    induction table with
    | nil => exact fun acc r _ _ hacc h => hacc r h
    | cons e table ih =>
        intro acc r hkeeps hms hacc h
        apply ih (acc.thenApply (e.readFrom ms)) r
          (fun e he => hkeeps e (List.mem_cons_of_mem _ he)) hms ?_ h
        intro r' hr'
        obtain ⟨g, f, hg, hf, rfl⟩ := Checked.ap_eq_ok hr'
        obtain ⟨a, ha, rfl⟩ := Checked.map_eq_ok hg
        have hread : e.read (e.find? ms) = Checked.ok f := Checked.under_eq_ok hf
        refine hkeeps e List.mem_cons_self (fun j hj => ?_) hread (hacc a ha)
        rcases Option.or_eq_some_iff.1 hj with hlabel | ⟨-, hname⟩
        · exact Json.Short.of_find? hms hlabel
        · exact Json.Short.of_find? hms hname
  intro j hj r h
  cases hj with
  | obj hms =>
      exact hentries table _ _ r htable hms (fun r hr => Except.ok.inj hr ▸ hempty) h
  | _ => cases h

end Schema

namespace Sourcing

open Schema Number

/-! ## Records -/

theorem Reply.Holds.short {reply : Reply} {j : Json} (h : reply.Holds j) : j.Short := by
  cases h with
  | blank => exact .null
  | parsed _ _ hj => exact Json.parse_short hj

def Attachment.IsShort (a : Attachment) : Prop :=
  ∀ i, a.file = .set i → Number.IsShort i

def AttachmentList.IsShort (l : AttachmentList) : Prop :=
  ∀ as, l.attachments = .set as → ∀ a ∈ as, a.IsShort

/-- All file ids that a record shows can be written out. -/
def Snapshot.IsShort (s : Snapshot) : Prop :=
  (∀ l, s.buyerAttachments = .set l → l.IsShort) ∧ ∀ l, s.sellerAttachments = .set l → l.IsShort

theorem Attachment.codec_yields : Attachment.codec.Yields Attachment.IsShort := by
  apply Codec.record_yields
  · intro i h
    cases h
  · intro e he
    simp only [Attachment.table, List.mem_cons, List.not_mem_nil, or_false] at he
    rcases he with rfl | rfl | rfl | rfl
    · exact Entry.slot_keeps Codec.whole_yields fun v r hv _ => hv
    all_goals exact Entry.slot_keeps_of_forall fun v r hr => hr

theorem AttachmentList.codec_yields : AttachmentList.codec.Yields AttachmentList.IsShort := by
  apply Codec.record_yields
  · intro as h
    cases h
  · intro e he
    simp only [AttachmentList.table, List.mem_cons, List.not_mem_nil, or_false] at he
    rcases he with rfl
    exact Entry.slot_keeps (Codec.list_yields Attachment.codec_yields) fun v r hv _ => hv

/-- A list that is missing has no items. -/
theorem AttachmentList.items_short {slot : Slot AttachmentList}
    (h : ∀ l, slot = .set l → l.IsShort) :
    ∀ a ∈ (slot.get?.bind (·.attachments.get?)).getD [], a.IsShort := by
  intro a ha
  cases slot with
  | set l =>
      cases has : l.attachments with
      | set as =>
          simp only [Slot.get?, Option.bind_some, has, Option.getD_some] at ha
          exact h l rfl as has a ha
      | _ => simp [Slot.get?, has] at ha
  | _ => simp [Slot.get?] at ha

namespace Snapshot

theorem codec_yields : codec.Yields IsShort := by
  apply Codec.record_yields
  · constructor
    all_goals
      intro l h
      cases h
  · intro e he
    simp only [table, List.mem_cons, List.not_mem_nil, or_false] at he
    rcases he with rfl | rfl | rfl | rfl
    · exact Entry.slot_keeps_of_forall fun v r hr => hr
    · exact Entry.slot_keeps_of_forall fun v r hr => hr
    · exact Entry.slot_keeps AttachmentList.codec_yields fun v r hv hr => ⟨hv, hr.2⟩
    · exact Entry.slot_keeps AttachmentList.codec_yields fun v r hv hr => ⟨hr.1, hv⟩

variable {snapshot : Snapshot} {reply : Reply} {j : Json}

theorem isShort_of_shows (hj : j.Short) (h : Shows j snapshot) : snapshot.IsShort := by
  obtain ⟨item, rest, hlist, hread⟩ := h
  refine codec_yields ?_ hread
  cases hj with
  | obj hms =>
      cases Json.Short.of_find? hms hlist with
      | arr hitems => exact hitems item List.mem_cons_self
  | _ => cases hlist

theorem isShort_of_ofReply {id : String} (h : ofReply id reply = .ok snapshot) :
    snapshot.IsShort := by
  obtain ⟨j, hholds, hshows⟩ := ofReply_eq_ok_iff.1 h
  exact isShort_of_shows hholds.short hshows

theorem IsShort.buyerItems (h : snapshot.IsShort) : ∀ a ∈ snapshot.buyerItems, a.IsShort :=
  AttachmentList.items_short h.1

theorem IsShort.sellerItems (h : snapshot.IsShort) : ∀ a ∈ snapshot.sellerItems, a.IsShort :=
  AttachmentList.items_short h.2

end Snapshot
end Sourcing
end TenderDesk
