import TenderDesk.Desk.Call
import TenderDesk.Proofs.Desk.Suppliers

/-!
# SupplierEdit — changes of a supplier list, and what they make of it

* `SupplierEdit.organisations?` is what a change makes of a list of organisations, if it can be
  made.
* Whoever keeps the list, the change can be followed on links (`SupplierEdit.links?`), which have an
  organisation on one side and a company on the other. On the side of the organisations the two are
  the same (`SupplierEdit.organisations?_map`).
-/

namespace TenderDesk
namespace Desk

inductive SupplierEdit
  | add (refs : List SupplierRef) (overwrite : Bool) (principal : String)
  | delete (organisation principal : String)
  deriving DecidableEq, Repr

namespace SupplierEdit

/-- The call that makes a change to the suppliers of an event. -/
def call (project : Int) (event : String) : SupplierEdit → Call
  | .add refs overwrite principal => .addSuppliers project event refs overwrite principal
  | .delete organisation principal => .deleteSupplier project event organisation principal

/-- What a change makes of a list of organisations, if it can be made. -/
def organisations? (saved : Store) (listed : List String) : SupplierEdit → Option (List String)
  | .add refs overwrite _ =>
      if Linked saved (refs.map (·.id)) then
        some (appendNew (if overwrite then [] else listed) (refs.map (·.id)).eraseDups)
      else none
  | .delete organisation _ =>
      if organisation ∈ listed then some (listed.erase organisation) else none

/-- The list after some changes; one that cannot be made leaves it alone. -/
def organisationsAfter (saved : Store) (listed : List String) (edits : List SupplierEdit) :
    List String :=
  edits.foldl (fun listed edit => (edit.organisations? saved listed).getD listed) listed

/-- What a change makes of a list of links, if it can be made. -/
def links? (saved : Store) (ls : List Link) : SupplierEdit → Option (List Link)
  | .add refs overwrite _ =>
      if Linked saved (refs.map (·.id)) then
        some (appendNew (if overwrite then [] else ls)
          ((refs.map (·.id)).eraseDups.filterMap saved.linkOf?))
      else none
  | .delete organisation _ =>
      (saved.linkOf? organisation).bind fun link =>
        if link ∈ ls then some (ls.erase link) else none

variable {saved saved' : Store} {ls ls' : List Link} {edit : SupplierEdit}

/-- A change depends on nothing of the store but its links. -/
theorem links?_congr (h : saved.links = saved'.links) :
    edit.links? saved ls = edit.links? saved' ls := by
  rcases saved with ⟨projects, links, rows⟩
  rcases saved' with ⟨projects', links', rows'⟩
  cases h
  rfl

theorem organisations?_congr {listed : List String} (h : saved.links = saved'.links) :
    edit.organisations? saved listed = edit.organisations? saved' listed := by
  rcases saved with ⟨projects, links, rows⟩
  rcases saved' with ⟨projects', links', rows'⟩
  cases h
  rfl

theorem organisationsAfter_congr {listed : List String} {edits : List SupplierEdit}
    (h : saved.links = saved'.links) :
    organisationsAfter saved listed edits = organisationsAfter saved' listed edits := by
  unfold organisationsAfter
  simp only [organisations?_congr h]

section

variable {refs : List SupplierRef} {overwrite : Bool} {organisation principal : String}
variable {link : Link}

theorem links?_add (h : Linked saved (refs.map (·.id))) :
    (add refs overwrite principal).links? saved ls =
      some (appendNew (if overwrite then [] else ls)
        ((refs.map (·.id)).eraseDups.filterMap saved.linkOf?)) :=
  if_pos h

theorem links?_add_unlinked (h : ¬Linked saved (refs.map (·.id))) :
    (add refs overwrite principal).links? saved ls = none :=
  if_neg h

theorem links?_delete (h : saved.linkOf? organisation = some link) :
    (delete organisation principal).links? saved ls =
      if link ∈ ls then some (ls.erase link) else none := by
  unfold links?
  simp only [h, Option.bind_some]

theorem links?_delete_unlinked (h : saved.linkOf? organisation = none) :
    (delete organisation principal).links? saved ls = none := by
  unfold links?
  simp only [h, Option.bind_none]

end

/-- Links that are linked stay so, and none is listed twice. -/
theorem links?_wellFormed (hsub : ls ⊆ saved.links) (hdistinct : ls.Nodup)
    (h : edit.links? saved ls = some ls') : ls' ⊆ saved.links ∧ ls'.Nodup := by
  cases edit with
  | add refs overwrite principal =>
      by_cases hlinked : Linked saved (refs.map (·.id))
      · rw [links?_add hlinked] at h
        cases h
        have hkept : (if overwrite then [] else ls) ⊆ saved.links ∧
            (if overwrite then [] else ls).Nodup := by
          cases overwrite with
          | true => exact ⟨List.nil_subset _, List.nodup_nil⟩
          | false => exact ⟨hsub, hdistinct⟩
        refine ⟨fun l hl => ?_, appendNew_nodup hkept.2 (found_nodup hlinked)⟩
        rcases mem_appendNew.1 hl with hl | hl
        · exact hkept.1 hl
        · exact found_subset hl
      · rw [links?_add_unlinked hlinked] at h
        cases h
  | delete organisation principal =>
      cases hlink : saved.linkOf? organisation with
      | none =>
          rw [links?_delete_unlinked hlink] at h
          cases h
      | some link =>
          rw [links?_delete hlink] at h
          by_cases hmem : link ∈ ls
          · rw [if_pos hmem] at h
            cases h
            exact ⟨fun l hl => hsub (List.mem_of_mem_erase hl), hdistinct.erase _⟩
          · rw [if_neg hmem] at h
            cases h

/-- Adding links adds their organisations. -/
theorem organisations_appendNew (hone : saved.OneToOne) {organisations : List String}
    (hlinked : Linked saved organisations) (hsub : ls ⊆ saved.links) :
    (appendNew ls (organisations.eraseDups.filterMap saved.linkOf?)).map (·.organisation) =
      appendNew (ls.map (·.organisation)) organisations.eraseDups := by
  have hinj : ∀ a ∈ ls, ∀ b ∈ organisations.eraseDups.filterMap saved.linkOf?,
      b.organisation = a.organisation → b = a := fun a ha b hb =>
    hone.eq_of_organisation (hsub ha) (found_subset hb)
  rw [map_appendNew hinj, map_organisation_of_linked (linked_eraseDups.2 hlinked)]

theorem companies_appendNew (hone : saved.OneToOne) {organisations : List String}
    (hsub : ls ⊆ saved.links) :
    (appendNew ls (organisations.eraseDups.filterMap saved.linkOf?)).map (·.company) =
      appendNew (ls.map (·.company))
        ((organisations.eraseDups.filterMap saved.linkOf?).map (·.company)) := by
  apply map_appendNew
  exact fun a ha b hb => hone.eq_of_company (hsub ha) (found_subset hb)

/-- On the side of the organisations, a change of links is the change of organisations. -/
theorem organisations?_map (hone : saved.OneToOne) (hsub : ls ⊆ saved.links) :
    edit.organisations? saved (ls.map (·.organisation)) =
      (edit.links? saved ls).map fun ls' => ls'.map (·.organisation) := by
  cases edit with
  | add refs overwrite principal =>
      by_cases hlinked : Linked saved (refs.map (·.id))
      · rw [links?_add hlinked, Option.map_some]
        refine (if_pos hlinked).trans (congrArg some ?_)
        cases overwrite with
        | true => exact (organisations_appendNew hone hlinked (List.nil_subset _)).symm
        | false => exact (organisations_appendNew hone hlinked hsub).symm
      · rw [links?_add_unlinked hlinked]
        exact if_neg hlinked
  | delete organisation principal =>
      cases hlink : saved.linkOf? organisation with
      | none =>
          -- Only what is linked is listed.
          have hmem : organisation ∉ ls.map (·.organisation) := by
            intro hmem
            rcases List.mem_map.1 hmem with ⟨l, hl, horganisation⟩
            have hsome := hone.linkOf?_eq_some_iff.2 ⟨hsub hl, horganisation⟩
            rw [hlink] at hsome
            cases hsome
          rw [links?_delete_unlinked hlink]
          exact if_neg hmem
      | some link =>
          rcases hone.linkOf?_eq_some_iff.1 hlink with ⟨hmem, rfl⟩
          have hinj : ∀ l ∈ ls, l.organisation = link.organisation → l = link := fun l hl =>
            hone.eq_of_organisation hmem (hsub hl)
          rw [links?_delete hlink]
          by_cases hl : link ∈ ls
          · rw [if_pos hl, Option.map_some, map_erase_of_inj hinj]
            exact if_pos (List.mem_map_of_mem hl)
          · rw [if_neg hl]
            refine if_neg fun hname => hl ?_
            rcases List.mem_map.1 hname with ⟨l, hl', hlname⟩
            rw [← hinj l hl' hlname]
            exact hl'

end SupplierEdit

end Desk
end TenderDesk
