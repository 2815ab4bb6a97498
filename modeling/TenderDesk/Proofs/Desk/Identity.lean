import TenderDesk.Proofs.Desk.Fetching
import TenderDesk.Proofs.Desk.Views

/-!
# Identity — which texts are ids of events, and which events they find

* `Spelled naming event ds` says that a text is the stem of public ids with the digits `ds` behind
  it.
* `Sought` lists all that a search for an event may come to, each with what it takes.
  `findEvent_eq_iff` says that it comes to nothing else.
* `Resolves`: the text is the public id of a row, and finds this row whenever the store answers.
* `public_ids` puts both directions together: what is told as the id of an event resolves to it.
* `long_number_escapes`: digits that denote no word of the store are not taken for an event that is
  missing.
-/

namespace TenderDesk
namespace Desk

/-! ## Spelling -/

structure Spelled (naming : Naming) (event : String) (ds : List Char) : Prop where
  split : event.toList = naming.stem.toList ++ ds
  nonempty : ds ≠ []
  decimal : ∀ c ∈ ds, Text.isDigit c = true

section

variable {naming : Naming} {event : String} {ds ds' : List Char}

theorem Spelled.unique (h : Spelled naming event ds) (h' : Spelled naming event ds') : ds = ds' :=
  List.append_cancel_left (h.split.symm.trans h'.split)

theorem spelled_publicId (row : Row) : Spelled row.naming row.publicId (Text.digits row.id) where
  split := by simp [Row.publicId, Text.digits, Nat.repr]
  nonempty := Text.digits_ne_nil row.id
  decimal := fun _ => Text.isDigit_of_mem_digits

/-- Behind the stem the digits are counted first, and read only if they are not too many. -/
theorem eventNumber_of_spelled (h : Spelled naming event ds) :
    eventNumber naming event =
      if Number.maxDigits < ds.length then .error (.numberTooLong ds.length)
      else .ok (Text.digitsValue ds) := by
  have hstem : naming.stem.toList.isPrefixOf event.toList = true := by simp [h.split]
  have hdigits : event.toList.drop naming.stem.toList.length = ds := by simp [h.split]
  have hsome : ds.isEmpty = false := by simpa using h.nonempty
  have hall : ds.all Text.isDigit = true := List.all_eq_true.2 h.decimal
  unfold eventNumber
  simp only [hstem, hdigits, hsome, hall, Bool.not_false, Bool.and_self, if_true]

theorem eventNumber_of_unspelled (h : ∀ ds, ¬Spelled naming event ds) :
    eventNumber naming event = .error (.eventIdMalformed event naming.stem) := by
  unfold eventNumber
  apply if_neg
  intro hread
  simp only [Bool.and_eq_true, Bool.not_eq_true', List.isEmpty_eq_false_iff, List.all_eq_true,
    List.isPrefixOf_iff_prefix] at hread
  rcases hread with ⟨⟨⟨rest, hstem⟩, hne⟩, hdigits⟩
  have hdrop : event.toList.drop naming.stem.toList.length = rest := by simp [← hstem]
  rw [hdrop] at hne hdigits
  exact h rest ⟨hstem.symm, hne, hdigits⟩

end

/-! ## Searching -/

/-- What a search for an event of a project comes to; `answered` says whether the store answered at
last. -/
inductive Sought (naming : Naming) (saved : Store) (project : Int) (event : String)
    (answered : Bool) : Except Failure Row → Prop
  | malformed (h : ∀ ds, ¬Spelled naming event ds) :
      Sought naming saved project event answered (.error (.eventIdMalformed event naming.stem))
  | long {ds : List Char} (h : Spelled naming event ds) (hlong : Number.maxDigits < ds.length) :
      Sought naming saved project event answered (.error (.numberTooLong ds.length))
  | unanswered {ds : List Char} (h : Spelled naming event ds)
      (hshort : ds.length ≤ Number.maxDigits) (hanswered : answered = false) :
      Sought naming saved project event answered (.error .storeUnavailable)
  | unfit {ds : List Char} (h : Spelled naming event ds) (hshort : ds.length ≤ Number.maxDigits)
      (hanswered : answered = true) (hreads : ¬saved.Reads [project, Text.digitsValue ds]) :
      Sought naming saved project event answered (.error .storeWord)
  | missing {ds : List Char} (h : Spelled naming event ds) (hshort : ds.length ≤ Number.maxDigits)
      (hanswered : answered = true) (hreads : saved.Reads [project, Text.digitsValue ds])
      (hnone : ∀ row ∈ saved.rowsOf project, row.id ≠ Text.digitsValue ds) :
      Sought naming saved project event answered (.error (.eventMissing event project))
  | found {ds : List Char} (h : Spelled naming event ds) (hshort : ds.length ≤ Number.maxDigits)
      (hanswered : answered = true) (hreads : saved.Reads [project, Text.digitsValue ds])
      {row : Row} (hrow : row ∈ saved.rowsOf project) (hid : row.id = Text.digitsValue ds) :
      Sought naming saved project event answered (.ok row)

section

variable {naming : Naming} {saved : Store} {project : Int} {event : String} {answered : Bool}
  {ds : List Char} {found : Except Failure Row}

theorem lookUp_of_not_reads {α : Type} {words : List Int} {read : Store → α}
    (h : ¬saved.Reads words) : saved.lookUp words read true = .error .storeWord := by
  have hword : ¬(saved.fits && words.all Schema.Codec.fitsWord) = true := by
    simpa [Store.Reads] using h
  simp [Store.lookUp, hword]

/-- Digits that can be read are looked up as the number that they denote. -/
theorem event_of_spelled (h : Spelled naming event ds) (hshort : ds.length ≤ Number.maxDigits) :
    saved.event naming project event answered =
      match saved.lookUp [project, Text.digitsValue ds]
        (fun s => s.row? project (Text.digitsValue ds)) answered with
      | .error failure => .error failure
      | .ok none => .error (.eventMissing event project)
      | .ok (some row) => .ok row := by
  have hnumber : eventNumber naming event = .ok (Text.digitsValue ds) := by
    rw [eventNumber_of_spelled h, if_neg (Nat.not_lt.2 hshort)]
  cases hlook : saved.lookUp [project, Text.digitsValue ds]
      (fun s => s.row? project (Text.digitsValue ds)) answered with
  | error failure => simp only [Store.event, hnumber, hlook]
  | ok found => cases found <;> simp only [Store.event, hnumber, hlook]

/-- Where the store answers and can be read, the row is found that has the number, if one has. -/
theorem event_of_reads (h : Spelled naming event ds) (hshort : ds.length ≤ Number.maxDigits)
    (hreads : saved.Reads [project, Text.digitsValue ds]) :
    saved.event naming project event true =
      match saved.row? project (Text.digitsValue ds) with
      | none => .error (.eventMissing event project)
      | some row => .ok row := by
  have htold : saved.lookUp [project, Text.digitsValue ds]
      (fun s => s.row? project (Text.digitsValue ds)) true =
        .ok (saved.row? project (Text.digitsValue ds)) :=
    Store.lookUp_eq_ok_iff.2 ⟨rfl, hreads, rfl⟩
  rw [event_of_spelled h hshort, htold]
  cases saved.row? project (Text.digitsValue ds) <;> rfl

theorem row?_eq_none_iff {number : Nat} :
    saved.row? project number = none ↔ ∀ row ∈ saved.rowsOf project, row.id ≠ number := by
  simp [Store.row?, Store.rowsOf]

/-- What a search comes to is what the store tells. -/
theorem Sought.event_eq (hs : saved.Numbered)
    (h : Sought naming saved project event answered found) :
    saved.event naming project event answered = found := by
  cases h with
  | malformed h => simp [Store.event, eventNumber_of_unspelled h]
  | long h hlong => simp [Store.event, eventNumber_of_spelled h, hlong]
  | unanswered h hshort hanswered =>
      rw [event_of_spelled h hshort, hanswered]
      rfl
  | unfit h hshort hanswered hreads =>
      rw [event_of_spelled h hshort, hanswered, lookUp_of_not_reads hreads]
  | missing h hshort hanswered hreads hnone =>
      rw [hanswered, event_of_reads h hshort hreads, row?_eq_none_iff.2 hnone]
  | found h hshort hanswered hreads hrow hid =>
      have hfound := Store.row?_of_mem hs hrow
      rw [hid] at hfound
      rw [hanswered, event_of_reads h hshort hreads, hfound]

/-- Every search comes to something. -/
theorem exists_sought (naming : Naming) (saved : Store) (project : Int) (event : String)
    (answered : Bool) : ∃ found, Sought naming saved project event answered found := by
  by_cases hspelled : ∃ ds, Spelled naming event ds
  · rcases hspelled with ⟨ds, h⟩
    rcases Nat.lt_or_ge Number.maxDigits ds.length with hlong | hshort
    · exact ⟨_, .long h hlong⟩
    cases answered with
    | false => exact ⟨_, .unanswered h hshort rfl⟩
    | true =>
        by_cases hreads : saved.Reads [project, Text.digitsValue ds]
        · by_cases hrow : ∃ row ∈ saved.rowsOf project, row.id = Text.digitsValue ds
          · rcases hrow with ⟨row, hrow, hid⟩
            exact ⟨_, .found h hshort rfl hreads hrow hid⟩
          · exact ⟨_, .missing h hshort rfl hreads fun row hmem hid => hrow ⟨row, hmem, hid⟩⟩
        · exact ⟨_, .unfit h hshort rfl hreads⟩
  · exact ⟨_, .malformed fun ds h => hspelled ⟨ds, h⟩⟩

theorem event_eq_iff (hs : saved.Numbered) :
    saved.event naming project event answered = found ↔
      Sought naming saved project event answered found := by
  refine ⟨?_, Sought.event_eq hs⟩
  rintro rfl
  rcases exists_sought naming saved project event answered with ⟨found, h⟩
  rwa [h.event_eq hs]

/-- A search is refused as invalid for the spelling of the id alone. -/
theorem Sought.invalid_iff (h : Sought naming saved project event answered found) :
    (∃ failure, found = .error failure ∧ failure.category = .invalid) ↔
      ∀ ds, ¬Spelled naming event ds := by
  constructor
  · rintro ⟨failure, rfl, hcategory⟩
    cases h with
    | malformed h => exact h
    | _ => cases hcategory
  · intro hnone
    cases h with
    | malformed h => exact ⟨_, rfl, rfl⟩
    | long h | unanswered h | unfit h | missing h | found h => exact absurd h (hnone _)

end

/-! ## Ids that resolve -/

/-- A text is the public id of a row of a project, and a search for it finds this row whenever the
store answers. -/
structure Resolves (s : Settings) (saved : Store) (project : Int) (event : String) (row : Row) :
    Prop where
  listed : row ∈ saved.rowsOf project
  shown : event = row.publicId
  found : ∀ {ω : Type} (w : Surroundings ω) (m : ω), (w.wait s.attempts m).answered = true →
    (findEvent s project event w (.start saved m)).1 = .ok row

section

variable {ω : Type} {w : Surroundings ω} {s : Settings} {saved : Store} {m : ω} {project : Int}
  {row : Row}

/-- Rows that are named alike have one public id only if they have one number. -/
theorem id_eq_of_publicId_eq {row' : Row} (hnaming : row.naming = row'.naming)
    (h : row.publicId = row'.publicId) : row.id = row'.id := by
  have hspelled := spelled_publicId row'
  rw [← hnaming, ← h] at hspelled
  exact Text.digits_injective ((spelled_publicId row).unique hspelled)

theorem reads_of_lt {n : Nat} (hfits : saved.fits = true)
    (hproject : Schema.Codec.fitsWord project = true) (hn : n < 2 ^ 63) :
    saved.Reads [project, n] :=
  ⟨hfits, by simp [hproject, fitsWord_of_lt hn]⟩

theorem lt_of_fitsWord {n : Nat} (h : Schema.Codec.fitsWord n = true) : n < 2 ^ 63 := by
  unfold Schema.Codec.fitsWord at h
  simp only [Bool.and_eq_true, decide_eq_true_eq] at h
  omega

/-- The public id of a row that was named under the settings resolves to it. -/
theorem resolves_publicId (hrow : saved.row? project row.id = some row)
    (hnaming : row.naming = s.naming) (hreads : saved.Reads [project, row.id]) :
    Resolves s saved project row.publicId row where
  listed := Store.mem_rowsOf.2 ⟨Store.mem_of_row? hrow, (Store.of_row? hrow).1⟩
  shown := rfl
  found := by
    intro ω w m hanswered
    have hword : Schema.Codec.fitsWord row.id = true := by
      have hwords := hreads.2
      simp only [List.all_cons, List.all_nil, Bool.and_true, Bool.and_eq_true] at hwords
      exact hwords.2
    have hnames : Names s.naming saved project row.publicId row := by
      refine ⟨row.id, ?_, hrow⟩
      rw [← hnaming]
      exact eventNumber_publicId (lt_of_fitsWord hword)
    have hfound : saved.event s.naming project row.publicId (w.wait s.attempts m).answered =
        .ok row := Store.event_eq_ok_iff_names.2 ⟨hnames, hanswered, hreads⟩
    rw [findEvent_found rfl hfound]

/-! ## What is told -/

theorem summaries_ids {rows : List Row} {principal : String} {told : List EventSummary}
    {r r' : Run ω} (h : summaries s principal rows w r = (.ok told, r')) :
    List.Forall₂ (fun row t => t.id = row.publicId) rows told := by
  induction rows generalizing told r r' with
  | nil =>
      cases h
      exact .nil
  | cons row rows ih =>
      rcases Action.bind_apply_eq_ok_iff.1 h with ⟨shown, r₁, -, h⟩
      rcases Action.bind_apply_eq_ok_iff.1 h with ⟨first, r₂, hfirst, h⟩
      rcases Action.bind_apply_eq_ok_iff.1 h with ⟨rest, r₃, hrest, h⟩
      cases h
      rw [ofExcept_apply] at hfirst
      have hsummary : summary row shown.1 = .ok first := (Prod.mk.inj hfirst).1
      exact .cons (summary_eq_ok hsummary).1.symm (ih hrest)

/-- A listing tells the public ids of the rows of its project, in their order. -/
theorem listEvents_ids {principal : String} {told : List EventSummary} {r : Run ω}
    (h : listEvents s project principal w (.start saved m) = (.ok told, r)) :
    saved.Reads [project] ∧
      List.Forall₂ (fun row t => t.id = row.publicId) (saved.rowsOf project) told := by
  rcases Action.bind_apply_eq_ok_iff.1 h with ⟨found, r₁, hproject, h⟩
  rcases Action.bind_apply_eq_ok_iff.1 h with ⟨rows, r₂, hrows, h⟩
  rcases findProject_found rfl hproject with ⟨hreads, -, hsession⟩
  have hlook : saved.lookUp [project] (fun s => s.rowsOf project)
      (w.wait s.attempts r₁.memory).answered = .ok rows := by
    have hcourse := look_course (w := w) hsession s [project] fun s => s.rowsOf project
    exact (Prod.mk.inj (hcourse.symm.trans hrows)).1
  rcases Store.lookUp_eq_ok_iff.1 hlook with ⟨-, -, rfl⟩
  exact ⟨hreads, summaries_ids h⟩

theorem Equipped.project_eq {row row' : Row} {kind : EventKind} {principal : String}
    {ws : List Write} (h : Equipped row kind principal ws row') :
    row'.project = row.project := by
  cases h with
  | assessed _ id organisations => rw [withSuppliers_eq]
  | recorded => rfl
  | unowned => rfl

theorem id_of_project? {id : Int} {p : Project} (h : saved.project? id = some p) : p.id = id := by
  simpa using List.find?_some h

/-- The row of a new event stands under the next number, and is named under the settings. -/
theorem Opened.named {request : NewEvent} {downSelected : Bool} {principal : String}
    {ws : List Write} (h : Opened s saved project request downSelected principal ws row) :
    row.project = project ∧ row.naming = s.naming := by
  cases h with
  | intro hproject hname hrow =>
      exact ⟨hrow.project_eq.trans (id_of_project? hproject), hrow.naming_eq⟩

/-- A new event is told under the number of its row and the naming of the settings. -/
theorem createEvent_ids {request : NewEvent} {downSelected : Bool} {principal : String}
    {told : EventSummary} {r : Run ω}
    (h : createEvent s project request downSelected principal w (.start saved m) = (.ok told, r)) :
    saved.Reads [project] ∧ ∃ row, r.session = .fresh (saved.add row) ∧ row.id = saved.nextId ∧
      row.project = project ∧ row.naming = s.naming ∧ told.id = row.publicId := by
  rcases Action.bind_apply_eq_ok_iff.1 h with ⟨found, r₁, hproject, -⟩
  have hreads := (findProject_found rfl hproject).1
  have start : (Run.start saved m).At (.fresh saved) anything := ⟨rfl, trivial⟩
  rcases (createEvent_triple (L := fun _ => anything) keeps_anything keeps_anything
    (fun _ => keeps_anything) s project request downSelected (fun _ _ _ => sends_anything _)
    principal).of_ok start h with ⟨ws, row, ⟨hopened, hsummary⟩, hsession, -⟩
  rcases hopened.named with ⟨hrow, hnaming⟩
  exact ⟨hreads, row, hsession, hopened.id, hrow, hnaming, (summary_eq_ok hsummary).1.symm⟩

/-- What an update tells of an event is told of the row that its id names from then on. -/
theorem Changed.kept {event : String} {edit : EventEdit} {ws : List Write} {row' : Row}
    (h : Changed s saved project event edit ws row') (hs : saved.Numbered) (principal : String) :
    ∃ row, Names s.naming (savedSession saved row' edit principal).saved project event row ∧
      row.publicId = (signed row' edit principal).publicId := by
  cases hedit : isEdit edit with
  | true => exact ⟨_, (h.names hs principal (.inl hedit)).1, rfl⟩
  | false =>
      -- Nothing was saved, and the row that was found before is told of.
      cases h with
      | intro hbefore hrow hrow' =>
          rename_i before row
          refine ⟨before, ?_, ?_⟩
          · simpa [savedSession, hedit] using hbefore
          · simpa [signed, hedit] using (hrow'.told hrow hedit).1

theorem updateEvent_tells (project : Int) (event : String) (edit : EventEdit)
    (principal : String) :
    Triple w (Run.At (.fresh saved) anything) (updateEvent s project event edit principal)
      (fun told r => ∃ ws row', Changed s saved project event edit ws row' ∧
        (signed row' edit principal).publicId = told.id ∧
        r.session = savedSession saved row' edit principal)
      (fun _ _ => True) := by
  rw [updateEvent_eq]
  refine Triple.bind ((changeEvent_triple (L := fun _ => anything) keeps_anything keeps_anything
    (fun _ => keeps_anything) s (fun _ _ _ _ _ => sends_anything _)
    (fun _ _ _ _ _ _ => sends_anything _) principal).mono_fail fun _ _ _ => trivial)
      fun last => ?_
  refine Triple.of_exists fun ws => Triple.of_exists fun row' => Triple.of_fact ?_
  rintro ⟨hchanged, rfl⟩
  refine Triple.bind ((statusOf_triple (P := fun _ => True) keeps_anything s (fun _ _ => trivial)
    principal).mono_fail fun _ _ _ => trivial) fun status => ?_
  refine Triple.ofExcept ?_ fun _ _ _ _ => trivial
  exact fun told htold r h => ⟨ws, row', hchanged, (summary_eq_ok htold).1, h.1⟩

/-- An update tells the public id of the row that its event names from then on. -/
theorem updateEvent_ids (hs : saved.Numbered) {event : String} {edit : EventEdit}
    {principal : String} {told : EventSummary} {r : Run ω}
    (h : updateEvent s project event edit principal w (.start saved m) = (.ok told, r)) :
    ∃ row, Names s.naming r.session.saved project event row ∧
      r.session.saved.Reads [project, row.id] ∧ told.id = row.publicId := by
  have start : (Run.start saved m).At (.fresh saved) anything := ⟨rfl, trivial⟩
  rcases (updateEvent_tells project event edit principal).of_ok start h with
    ⟨ws, row', hchanged, htold, hsession⟩
  rcases hchanged.kept hs principal with ⟨row, hnames, hid⟩
  rw [← hsession] at hnames
  -- The number that is looked up did not change, and what was saved fits as before.
  rcases updateEvent_found h with ⟨before, hbefore, hreads⟩
  have hnumber : before.id = row.id :=
    Except.ok.inj ((id_of_names hbefore).symm.trans (id_of_names hnames))
  have hfits := visit_fits s w (.updateEvent project event edit principal) hreads.1 m
  have hsaved : ((Call.updateEvent project event edit principal).visit s w saved m).2 = r :=
    congrArg Prod.snd h
  rw [hsaved] at hfits
  exact ⟨row, hnames, ⟨hfits, hnumber ▸ hreads.2⟩, htold.symm.trans hid.symm⟩

end

/-! ## Both directions -/

section

variable {ω : Type} {w : Surroundings ω} {s : Settings} {saved : Store} {m : ω} {project : Int}

/-- A search asks the store at most, and comes to what `Sought` says of it. -/
theorem findEvent_eq_iff (hs : saved.Numbered) (project : Int) (event : String) :
    let end_ := findEvent s project event w (.start saved m)
    end_.2.session = .fresh saved ∧ requestsOf end_.2.asked = [] ∧
      ∀ found, end_.1 = found ↔
        Sought s.naming saved project event (w.wait s.attempts m).answered found := by
  intro end_
  have hend := findEvent_course (w := w) (r := .start saved m) rfl s project event
  have hfound : end_.1 = saved.event s.naming project event (w.wait s.attempts m).answered :=
    congrArg Prod.fst hend
  -- An id that cannot be read is refused before the store is asked.
  have hrun : end_.2 = (Run.start saved m).waiting (w.wait s.attempts m) ∨
      end_.2 = .start saved m := by
    have hsecond := congrArg Prod.snd hend
    dsimp only at hsecond
    split at hsecond
    · exact .inl hsecond
    · exact .inr hsecond
  refine ⟨?_, ?_, fun found => ?_⟩
  · rcases hrun with hrun | hrun <;> rw [hrun] <;> rfl
  · rcases hrun with hrun | hrun <;> rw [hrun]
    · exact requestsOf_waiting w s.attempts m _
    · rfl
  · rw [hfound]
    exact event_eq_iff hs

theorem createEvent_resolves {request : NewEvent} {downSelected : Bool} {principal : String}
    {told : EventSummary} {r : Run ω}
    (h : createEvent s project request downSelected principal w (.start saved m) = (.ok told, r)) :
    ∃ row, row.id = saved.nextId ∧ r.session = .fresh (saved.add row) ∧ row.naming = s.naming ∧
      told.id = row.publicId ∧
      (row.id < 2 ^ 63 → Resolves s r.session.saved project told.id row) := by
  rcases createEvent_ids h with ⟨hreads, row, hsession, hid, hrow, hnaming, hshown⟩
  refine ⟨row, hid, hsession, hnaming, hshown, fun hlt => ?_⟩
  have hfits := visit_fits s w (.createEvent project request downSelected principal) hreads.1 m
  have hsaved : ((Call.createEvent project request downSelected principal).visit s w saved m).2 =
      r := congrArg Prod.snd h
  rw [hsaved] at hfits
  have hfound : r.session.saved.row? project row.id = some row := by
    rw [hsession, ← hrow]
    exact Store.row?_add hid
  rw [hshown]
  exact resolves_publicId hfound hnaming (reads_of_lt hfits (by simpa using hreads.2) hlt)

theorem updateEvent_resolves (hs : saved.Numbered) {event : String} {edit : EventEdit}
    {principal : String} {told : EventSummary} {r : Run ω}
    (h : updateEvent s project event edit principal w (.start saved m) = (.ok told, r)) :
    ∃ row, Names s.naming r.session.saved project event row ∧ told.id = row.publicId ∧
      (row.naming = s.naming → Resolves s r.session.saved project told.id row) := by
  rcases updateEvent_ids hs h with ⟨row, hnames, hreads, hshown⟩
  refine ⟨row, hnames, hshown, fun hnaming => ?_⟩
  rw [hshown]
  exact resolves_publicId (row?_of_names hnames) hnaming hreads

theorem listEvents_resolves (hs : saved.Numbered) {principal : String} {told : List EventSummary}
    {r : Run ω} (h : listEvents s project principal w (.start saved m) = (.ok told, r)) :
    r.session = .fresh saved ∧
      List.Forall₂ (fun row t => t.id = row.publicId ∧
        (row.naming = s.naming → row.id < 2 ^ 63 → Resolves s saved project t.id row))
        (saved.rowsOf project) told := by
  have start : (Run.start saved m).At (.fresh saved) anything := ⟨rfl, trivial⟩
  have hsession := (listEvents_triple (P := fun _ => True) keeps_anything s
    (fun _ _ _ _ => trivial) principal).of_ok start h
  rcases listEvents_ids h with ⟨hreads, hids⟩
  have hall : List.Forall₂ (fun row t => row ∈ saved.rowsOf project ∧ t.id = row.publicId)
      (saved.rowsOf project) told := (List.forall₂_and_left _ told).2 ⟨fun _ h => h, hids⟩
  refine ⟨hsession.1, hall.imp fun row t ⟨hrow, hshown⟩ => ⟨hshown, fun hnaming hlt => ?_⟩⟩
  rw [hshown]
  exact resolves_publicId (Store.row?_of_mem hs hrow) hnaming
    (reads_of_lt hreads.1 (by simpa using hreads.2) hlt)

end

/-- In every store a search comes to what `Sought` says of it, and it is refused as invalid exactly
where the text is not the stem of public ids with digits behind it. What is told as the id of an
event is the public id of its row and resolves to it, as long as the row was named under the
settings and its number is a word of the store. Rows that are named alike have different ids. -/
theorem public_ids {ω : Type} (s : Settings) (w : Surroundings ω) (saved : Store) (m : ω)
    (hs : saved.Numbered) :
    (∀ (project : Int) (event : String),
      let end_ := findEvent s project event w (.start saved m)
      let answered := (w.wait s.attempts m).answered
      end_.2.session = .fresh saved ∧ requestsOf end_.2.asked = [] ∧
        (∀ found, end_.1 = found ↔ Sought s.naming saved project event answered found) ∧
        ((∃ failure, end_.1 = .error failure ∧ failure.category = .invalid) ↔
          ∀ ds, ¬Spelled s.naming event ds)) ∧
    (∀ (project : Int) (request : NewEvent) (downSelected : Bool) (principal : String)
      (told : EventSummary),
      let end_ := (Call.createEvent project request downSelected principal).visit s w saved m
      end_.1 = .ok told → ∃ row, row.id = saved.nextId ∧ end_.2.session = .fresh (saved.add row) ∧
        row.naming = s.naming ∧ told.id = row.publicId ∧
        (row.id < 2 ^ 63 → Resolves s end_.2.session.saved project told.id row)) ∧
    (∀ (project : Int) (event : String) (edit : EventEdit) (principal : String)
      (told : EventSummary),
      let end_ := (Call.updateEvent project event edit principal).visit s w saved m
      end_.1 = .ok told → ∃ row, Names s.naming end_.2.session.saved project event row ∧
        told.id = row.publicId ∧
        (row.naming = s.naming → Resolves s end_.2.session.saved project told.id row)) ∧
    (∀ (project : Int) (principal : String) (told : List EventSummary),
      let end_ := (Call.listEvents project principal).visit s w saved m
      end_.1 = .ok told → end_.2.session = .fresh saved ∧
        List.Forall₂ (fun row t => t.id = row.publicId ∧
          (row.naming = s.naming → row.id < 2 ^ 63 → Resolves s saved project t.id row))
          (saved.rowsOf project) told) ∧
    ∀ row ∈ saved.rows, ∀ row' ∈ saved.rows, row.naming = row'.naming →
      (row.publicId = row'.publicId ↔ row = row') := by
  refine ⟨?searches, ?created, ?updated, ?listed, ?distinct⟩
  case searches =>
    intro project event end_ answered
    rcases findEvent_eq_iff (w := w) (s := s) (m := m) hs project event with
      ⟨hsession, hasked, hfound⟩
    exact ⟨hsession, hasked, hfound, ((hfound end_.1).1 rfl).invalid_iff⟩
  case created =>
    intro project request downSelected principal told end_ htold
    exact createEvent_resolves (Prod.ext htold rfl)
  case updated =>
    intro project event edit principal told end_ htold
    exact updateEvent_resolves hs (Prod.ext htold rfl)
  case listed =>
    intro project principal told end_ htold
    exact listEvents_resolves hs (Prod.ext htold rfl)
  case distinct =>
    intro row hrow row' hrow' hnaming
    refine ⟨fun h => ?_, fun h => h ▸ rfl⟩
    exact hs.eq_of_id_eq hrow hrow' (id_eq_of_publicId_eq hnaming h)

/-- Of two events the second is found, whatever zeros stand before its number; digits of another
script are refused; and a new event is told under an id that resolves to its row. -/
theorem public_ids_bench :
    let saved : Store := { projects := [benchProject], rows := twoRows }
    let scene := replyScene default
    let request : NewEvent := { name := some "Ink" }
    let end_ := (Call.createEvent 1 request false "buyer").visit benchSettings Scene.surroundings
      saved scene
    saved.Numbered ∧
      (findEvent benchSettings 1 "ocds-b5fd17-002" Scene.surroundings (.start saved scene)).1 =
        .ok twoRows[1] ∧
      (∀ ds, ¬Spelled benchSettings.naming "ocds-b5fd17-٢" ds) ∧
      ∃ row, Resolves benchSettings end_.2.session.saved 1 "ocds-b5fd17-3" row := by
  intro saved scene request end_
  have hs : saved.Numbered := show (twoRows.map (·.id)).Nodup by decide
  rcases public_ids benchSettings Scene.surroundings saved scene hs with
    ⟨hsearch, hcreated, -, -, -⟩
  have hspelled : Spelled benchSettings.naming "ocds-b5fd17-002" ['0', '0', '2'] :=
    ⟨by decide, by decide, List.all_eq_true.1 (by decide)⟩
  have hrefused : (findEvent benchSettings 1 "ocds-b5fd17-٢" Scene.surroundings
      (.start saved scene)).1 =
        .error (.eventIdMalformed "ocds-b5fd17-٢" "ocds-b5fd17-") := by
    decide +kernel
  refine ⟨hs, ?_, (hsearch 1 "ocds-b5fd17-٢").2.2.2.1 ⟨_, hrefused, rfl⟩, ?_⟩
  · exact ((hsearch 1 "ocds-b5fd17-002").2.2.1 (.ok twoRows[1])).2
      (.found hspelled (by decide) (by decide) ⟨by decide, by decide⟩ (by decide) (by decide))
  · have htold : ∃ told, end_.1 = .ok told ∧ told.id = "ocds-b5fd17-3" :=
      ⟨_, rfl, by decide +kernel⟩
    rcases htold with ⟨told, htold, hid⟩
    rcases hcreated 1 request false "buyer" told htold with ⟨row, hnumber, -, -, -, hresolves⟩
    have hlt : row.id < 2 ^ 63 := by
      rw [hnumber]
      decide
    exact ⟨row, hid ▸ hresolves hlt⟩

/-- The digits of a number that is no word of the store are spelled as an id, and no event has this
number, but the search does not end as one for a missing event does. -/
theorem long_number_escapes :
    let saved : Store := { projects := [benchProject], rows := twoRows }
    let event := "ocds-b5fd17-9223372036854775808"
    let number := Text.digitsValue (Text.digits (2 ^ 63))
    Spelled benchSettings.naming event (Text.digits (2 ^ 63)) ∧
      (∀ row ∈ saved.rowsOf 1, row.id ≠ number) ∧
      (findEvent benchSettings 1 event Scene.surroundings (.start saved (replyScene default))).1 =
        .error .storeWord ∧
      Failure.storeWord.category ≠ .notFound := by
  have hspelled : Spelled benchSettings.naming "ocds-b5fd17-9223372036854775808"
      (Text.digits (2 ^ 63)) :=
    ⟨by decide +kernel, Text.digits_ne_nil _, fun _ => Text.isDigit_of_mem_digits⟩
  refine ⟨hspelled, ?_, ?_, by decide⟩
  · decide +kernel
  · decide +kernel

end Desk
end TenderDesk
