import TenderDesk.Proofs.Desk.Calm

/-!
# Outage — attempts at reading the store that fail, and what an action makes of them

* An `Outage` tells which attempts at reading the store fail; a read call makes several of them.
  `Outage.Fails` says that one of the read calls of a run fails at every attempt.
* `Surroundings.failing` are surroundings with an outage, and are otherwise as they were.
* `Endures` compares an action under an outage with the same action without one: as long as no read
  call fails for good the two end alike, and where one does, the action fails without having changed
  anything. Its flags tell whether an action may read and whether it may change something, and the
  rules for two actions in a row (`Endures.bind`, `Endures.bind_writing`) let no read call stand
  behind a change.
-/

namespace TenderDesk
namespace Desk

variable {ω α β : Type}

/-! ## Outages -/

/-- Which attempts at reading the store fail, numbered from the first. -/
abbrev Outage : Type :=
  Nat → Bool

namespace Outage

/-- No attempt fails. -/
def never : Outage :=
  fun _ => false

/-- The attempt behind a read call that begins at `n` with some tries, if the call is answered. -/
def answered? (fails : Outage) : (tries n : Nat) → Option Nat
  | 0, _ => none
  | tries + 1, n => if fails n then fails.answered? tries (n + 1) else some (n + 1)

/-- The attempt behind some read calls of which the first begins at `n`, if all are answered. -/
def passed? (fails : Outage) (tries : Nat) : (reads n : Nat) → Option Nat
  | 0, n => some n
  | reads + 1, n => (fails.answered? tries n).bind (fails.passed? tries reads)

/-- A read call of a run, counted from zero, fails at each of its tries, and those before it are all
answered. -/
def Fails (fails : Outage) (tries call : Nat) : Prop :=
  ∃ n, fails.passed? tries call 0 = some n ∧ ∀ i < tries, fails (n + i) = true

variable {fails : Outage} {tries : Nat}

theorem answered?_eq_none_iff {n : Nat} :
    fails.answered? tries n = none ↔ ∀ i < tries, fails (n + i) = true := by
  induction tries generalizing n with
  | zero => simp [answered?]
  | succ tries ih =>
      cases hn : fails n with
      | false =>
          simp only [answered?, hn, Bool.false_eq_true, if_false, reduceCtorEq, false_iff]
          intro h
          have hfirst : fails n = true := h 0 (Nat.succ_pos tries)
          rw [hn] at hfirst
          cases hfirst
      | true =>
          simp only [answered?, hn, if_true, ih]
          constructor
          · rintro h (_ | i) hi
            · exact hn
            · have hrest := h i (by omega)
              rwa [Nat.add_right_comm] at hrest
          · intro h i hi
            have hrest := h (i + 1) (by omega)
            rwa [Nat.add_right_comm]

theorem passed?_add (reads more n : Nat) :
    fails.passed? tries (reads + more) n =
      (fails.passed? tries reads n).bind (fails.passed? tries more) := by
  induction reads generalizing n with
  | zero => simp [passed?]
  | succ reads ih =>
      have hstep : reads + 1 + more = reads + more + 1 := by omega
      rw [hstep, passed?, passed?, Option.bind_assoc]
      exact congrArg _ (funext ih)

/-- Some of the first read calls is not answered exactly when one of them fails at every try. -/
theorem passed?_eq_none_iff {reads : Nat} :
    fails.passed? tries reads 0 = none ↔ ∃ call < reads, fails.Fails tries call := by
  induction reads with
  | zero => simp [passed?]
  | succ reads ih =>
      rw [passed?_add]
      cases hpassed : fails.passed? tries reads 0 with
      | none =>
          obtain ⟨call, hcall, hfails⟩ := ih.1 hpassed
          simp only [Option.bind_none, true_iff]
          exact ⟨call, by omega, hfails⟩
      | some n =>
          have hone : fails.passed? tries 1 n = none ↔ fails.Fails tries reads := by
            simp only [passed?, Option.bind_fun_some, answered?_eq_none_iff, Fails, hpassed,
              Option.some.injEq, exists_eq_left']
          have hearlier : ¬∃ call < reads, fails.Fails tries call := by
            rw [← ih, hpassed]
            simp
          rw [Option.bind_some, hone]
          constructor
          · exact fun h => ⟨reads, Nat.lt_succ_self reads, h⟩
          · rintro ⟨call, hcall, hfails⟩
            rcases Nat.lt_succ_iff_lt_or_eq.1 hcall with hlt | rfl
            · exact absurd ⟨call, hlt, hfails⟩ hearlier
            · exact hfails

end Outage

/-! ## Surroundings with an outage -/

/-- Surroundings of which the store fails at some attempts. Nothing else in them takes notice of an
attempt or of a pause. -/
def Surroundings.failing (w : Surroundings ω) (fails : Outage) : Surroundings (ω × Nat)
  | .lookup, (m, n) => (!fails n, (m, n + 1))
  | .pause _, (m, n) => ((), (m, n))
  | .exchange request, (m, n) => ((w (.exchange request) m).1, ((w (.exchange request) m).2, n))
  | .buyerUser p, (m, n) => ((w (.buyerUser p) m).1, ((w (.buyerUser p) m).2, n))
  | .buyerCompany p, (m, n) => ((w (.buyerCompany p) m).1, ((w (.buyerCompany p) m).2, n))
  | .lotSuppliers f l, (m, n) => ((w (.lotSuppliers f l) m).1, ((w (.lotSuppliers f l) m).2, n))
  | .newAssessment f l k p, (m, n) =>
      ((w (.newAssessment f l k p) m).1, ((w (.newAssessment f l k p) m).2, n))
  | .assessment id p, (m, n) => ((w (.assessment id p) m).1, ((w (.assessment id p) m).2, n))
  | .criteria p e, (m, n) => ((w (.criteria p e) m).1, ((w (.criteria p e) m).2, n))
  | .commit, (m, n) => ((w .commit m).1, ((w .commit m).2, n))
  | .clock, (m, n) => ((w .clock m).1, ((w .clock m).2, n))

namespace Question

/-- What is asked of anybody but the desk's own store while it is read. -/
def isOutward : Question → Bool
  | .lookup | .pause _ => false
  | _ => true

/-- What may change something: a commit, a new assessment, or a request for a change. -/
def Alters : Question → Prop
  | .exchange request => request.isWriting = true
  | .newAssessment _ _ _ _ | .commit => True
  | _ => False

theorem not_alters_of_isLookup {q : Question} (h : q.IsLookup) : ¬q.Alters := by
  cases q <;> first | exact id | exact absurd h id

theorem isOutward_eq_false_of_isLookup {q : Question} (h : q.IsLookup) : q.isOutward = false := by
  cases q <;> first | rfl | exact absurd h id

end Question

/-- The questions that go beyond the store. -/
def outward (qs : List Question) : List Question :=
  qs.filter Question.isOutward

/-- How often the store was asked. -/
def readsOf (qs : List Question) : Nat :=
  qs.count .lookup

theorem outward_append (qs qs' : List Question) : outward (qs ++ qs') = outward qs ++ outward qs' :=
  List.filter_append _ _

theorem outward_of_isLookup {qs : List Question} (h : ∀ q ∈ qs, q.IsLookup) : outward qs = [] := by
  apply List.filter_eq_nil_iff.2
  intro q hq
  rw [Question.isOutward_eq_false_of_isLookup (h q hq)]
  exact Bool.false_ne_true

theorem readsOf_append (qs qs' : List Question) : readsOf (qs ++ qs') = readsOf qs + readsOf qs' :=
  List.count_append

theorem failing_outward {w : Surroundings ω} (fails : Outage) {q : Question}
    (h : q.isOutward = true) (m : ω) (n : Nat) :
    w.failing fails q (m, n) = ((w q m).1, ((w q m).2, n)) := by
  cases q <;> first | rfl | cases h

/-- The wait for the store ends where the read call ends. -/
theorem failing_waitFor (w : Surroundings ω) (fails : Outage) (again made : Nat) (m : ω) (n : Nat) :
    match fails.answered? (again + 1) n with
    | some n' => ((w.failing fails).waitFor again made (m, n)).answered = true ∧
        ((w.failing fails).waitFor again made (m, n)).memory = (m, n')
    | none => ((w.failing fails).waitFor again made (m, n)).answered = false := by
  induction again generalizing made n with
  | zero => cases hn : fails n <;> simp [Outage.answered?, Surroundings.waitFor,
      Surroundings.failing, hn]
  | succ again ih =>
      cases hn : fails n with
      | false => simp [Outage.answered?, Surroundings.waitFor, Surroundings.failing, hn]
      | true =>
          have hrest := ih (made + 1) (n + 1)
          rw [Outage.answered?, if_pos hn]
          simpa [Surroundings.waitFor, Surroundings.failing, hn] using hrest

/-! ## Two runs side by side -/

/-- A run without an outage and one with it stand at the same point. -/
structure Alike (r r' : Run (ω × Nat)) : Prop where
  session : r'.session = r.session
  memory : r'.memory.1 = r.memory.1
  outward : outward r'.asked = Desk.outward r.asked

/-- From one run to a later one nothing was changed, and nothing was asked that may change
something. -/
structure Untouched (r r' : Run (ω × Nat)) : Prop where
  saved : r'.session.saved = r.session.saved
  asked : ∃ qs, r'.asked = r.asked ++ qs ∧ ∀ q ∈ qs, ¬q.Alters

/-- How a run with an outage ends, beside the run without one: alike behind the attempt at which
the read calls were passed, or cut off where one of them failed for good. -/
inductive Parted (start : Run (ω × Nat)) (calm failing : Except Failure α × Run (ω × Nat)) :
    Option Nat → Prop
  | kept (told : failing.1 = calm.1) (alike : Alike calm.2 failing.2) :
      Parted start calm failing (some failing.2.memory.2)
  | cut (told : failing.1 = .error .storeUnavailable) (untouched : Untouched start failing.2) :
      Parted start calm failing none

/-- What an action does under an outage from one run, and without it from a run that stands at the
same point; without it the action makes `k` read calls. -/
structure Held (w : Surroundings ω) (fails : Outage) (tries : Nat) (reads writes : Bool)
    (x : Action (ω × Nat) α) (r r' : Run (ω × Nat)) (k : Nat) : Prop where
  count : readsOf (x (w.failing .never) r).2.asked = readsOf r.asked + k
  still : reads = false → k = 0
  quiet : writes = false → Untouched r' (x (w.failing fails) r').2
  ended : Parted r' (x (w.failing .never) r) (x (w.failing fails) r')
    (fails.passed? tries k r'.memory.2)

/-- However an action begins, it withstands an outage: it goes on as without it, or it is cut off
before anything was changed. It makes no read call unless `reads` is set, and changes nothing unless
`writes` is. -/
def Endures (w : Surroundings ω) (fails : Outage) (tries : Nat) (reads writes : Bool)
    (x : Action (ω × Nat) α) : Prop :=
  ∀ r r', Alike r r' → ∃ k, Held w fails tries reads writes x r r' k

section

variable {w : Surroundings ω} {fails : Outage} {tries : Nat} {reads writes : Bool}
  {r r' r'' : Run (ω × Nat)}

theorem Alike.refl (r : Run (ω × Nat)) : Alike r r :=
  ⟨rfl, rfl, rfl⟩

theorem Untouched.refl (r : Run (ω × Nat)) : Untouched r r :=
  ⟨rfl, [], by simp, by simp⟩

theorem Untouched.trans (h : Untouched r r') (h' : Untouched r' r'') : Untouched r r'' := by
  obtain ⟨qs, hqs, hnone⟩ := h.asked
  obtain ⟨qs', hqs', hnone'⟩ := h'.asked
  refine ⟨h'.saved.trans h.saved, qs ++ qs', by rw [hqs', hqs, List.append_assoc], ?_⟩
  intro q hq
  exact (List.mem_append.1 hq).elim (hnone q) (hnone' q)

/-- Only what an action does from the two runs counts. -/
theorem Held.of_eq {x y : Action (ω × Nat) α} {k : Nat}
    (h : Held w fails tries reads writes y r r' k)
    (hcalm : x (w.failing .never) r = y (w.failing .never) r)
    (hfailing : x (w.failing fails) r' = y (w.failing fails) r') :
    Held w fails tries reads writes x r r' k := by
  constructor
  · rw [hcalm]
    exact h.count
  · exact h.still
  · rw [hfailing]
    exact h.quiet
  · rw [hcalm, hfailing]
    exact h.ended

namespace Endures

/-- What neither reads nor asks anything ends alike. -/
theorem of_alike {x : Action (ω × Nat) α}
    (hcount : ∀ r, readsOf (x (w.failing .never) r).2.asked = readsOf r.asked)
    (hquiet : writes = false → ∀ r, Untouched r (x (w.failing fails) r).2)
    (hstay : ∀ r, (x (w.failing fails) r).2.memory.2 = r.memory.2)
    (halike : ∀ r r', Alike r r' → (x (w.failing fails) r').1 = (x (w.failing .never) r).1 ∧
      Alike (x (w.failing .never) r).2 (x (w.failing fails) r').2) :
    Endures w fails tries reads writes x := by
  intro r r' h
  obtain ⟨htold, hends⟩ := halike r r' h
  refine ⟨0, ⟨hcount r, fun _ => rfl, fun hw => hquiet hw r', ?_⟩⟩
  have hpassed : fails.passed? tries 0 r'.memory.2 = some r'.memory.2 := rfl
  rw [hpassed, ← hstay r']
  exact .kept htold hends

theorem pure (a : α) : Endures w fails tries reads writes (Pure.pure a) :=
  of_alike (fun _ => rfl) (fun _ r => .refl r) (fun _ => rfl) fun _ _ h => ⟨rfl, h⟩

theorem fail (failure : Failure) :
    Endures w fails tries reads writes (Action.fail failure : Action (ω × Nat) α) :=
  of_alike (fun _ => rfl) (fun _ r => .refl r) (fun _ => rfl) fun _ _ h => ⟨rfl, h⟩

theorem ofExcept (e : Except Failure α) :
    Endures w fails tries reads writes (Action.ofExcept e) := by
  cases e with
  | ok a => exact pure a
  | error failure => exact fail failure

theorem ofOption (failure : Failure) (o : Option α) :
    Endures w fails tries reads writes (Action.ofOption failure o) := by
  cases o with
  | some a => exact pure a
  | none => exact fail failure

theorem store : Endures w fails tries reads writes Action.store :=
  of_alike (fun _ => rfl) (fun _ r => .refl r) (fun _ => rfl)
    fun _ _ h => ⟨congrArg (fun σ : Session => Except.ok σ.working) h.session, h⟩

/-- An edit changes nothing that is saved, unless the action may. -/
theorem edit {f : Session → Session} (hsaved : writes = false → ∀ σ, (f σ).saved = σ.saved) :
    Endures w fails tries reads writes (Action.edit f) :=
  of_alike (fun _ => rfl) (fun hw r => ⟨hsaved hw r.session, [], by simp, by simp⟩) (fun _ => rfl)
    fun _ _ h => ⟨rfl, congrArg f h.session, h.memory, h.outward⟩

/-- A question that goes beyond the store is answered in the same way. -/
theorem ask {q : Question} (hq : q.isOutward = true) (halters : writes = false → ¬q.Alters) :
    Endures w fails tries reads writes (Action.ask q) := by
  have hlookup : readsOf [q] = 0 := by
    cases q <;> first | rfl | cases hq
  apply of_alike
  · intro r
    show readsOf (r.asked ++ [q]) = readsOf r.asked
    rw [readsOf_append, hlookup, Nat.add_zero]
  · intro hw r
    exact ⟨rfl, [q], rfl, by simpa using halters hw⟩
  · rintro ⟨σ, ⟨m, n⟩, asked⟩
    rw [Action.ask_apply, failing_outward fails hq]
  · rintro ⟨σ, ⟨m, n⟩, asked⟩ ⟨σ', ⟨m', n'⟩, asked'⟩ ⟨hsession, hmemory, houtward⟩
    cases hsession
    cases hmemory
    rw [Action.ask_apply, Action.ask_apply, failing_outward _ hq, failing_outward _ hq]
    refine ⟨rfl, rfl, rfl, ?_⟩
    show outward (asked' ++ [q]) = outward (asked ++ [q])
    rw [outward_append, outward_append]
    exact congrArg (· ++ outward [q]) houtward

end Endures

/-! ## Two actions in a row -/

section

variable {readsFirst writesFirst readsThen writesThen : Bool} {x : Action (ω × Nat) α}
  {f : α → Action (ω × Nat) β} {k : Nat}

/-- A first action that fails with and without the outage leaves nothing to the second. -/
theorem Held.bind_error (h : Held w fails tries readsFirst writesFirst x r r' k) {failure : Failure}
    {m m' : Run (ω × Nat)} (hcalm : x (w.failing .never) r = (.error failure, m))
    (hfailing : x (w.failing fails) r' = (.error failure, m')) (halike : Alike m m')
    (hpassed : fails.passed? tries k r'.memory.2 = some m'.memory.2) :
    Held w fails tries (readsFirst || readsThen) (writesFirst || writesThen) (x >>= f) r r' k := by
  have hcalm' : (x >>= f) (w.failing .never) r = (.error failure, m) := Action.bind_of_error hcalm
  have hfailing' : (x >>= f) (w.failing fails) r' = (.error failure, m') :=
    Action.bind_of_error hfailing
  have hcount := h.count
  have hquiet := h.quiet
  rw [hcalm] at hcount
  rw [hfailing] at hquiet
  constructor
  · rw [hcalm', hcount]
  · exact fun hr => h.still (Bool.or_eq_false_iff.1 hr).1
  · rw [hfailing']
    exact fun hw => hquiet (Bool.or_eq_false_iff.1 hw).1
  · rw [hcalm', hfailing', hpassed]
    exact .kept rfl halike

/-- How often the store is read without an outage by both actions. -/
theorem Held.count_bind (h : Held w fails tries readsFirst writesFirst x r r' k)
    (hf : ∀ a m, x (w.failing .never) r = (.ok a, m) →
      Endures w fails tries readsThen writesThen (f a)) :
    ∃ more, readsOf ((x >>= f) (w.failing .never) r).2.asked = readsOf r.asked + (k + more) ∧
      (readsThen = false → more = 0) := by
  have hcount := h.count
  rcases hcalm : x (w.failing .never) r with ⟨failure | a, m⟩ <;> rw [hcalm] at hcount
  · refine ⟨0, ?_, fun _ => rfl⟩
    rw [Action.bind_of_error hcalm, hcount, Nat.add_zero]
  · obtain ⟨more, hmore⟩ := hf a m hcalm m m (.refl m)
    refine ⟨more, ?_, hmore.still⟩
    rw [Action.bind_of_ok hcalm, hmore.count, hcount, Nat.add_assoc]

/-- Where the first action is cut off, so are both. -/
theorem Held.bind_cut (h : Held w fails tries readsFirst writesFirst x r r' k)
    {m' : Run (ω × Nat)} (hf : ∀ a m, x (w.failing .never) r = (.ok a, m) →
      Endures w fails tries readsThen writesThen (f a))
    (hfailing : x (w.failing fails) r' = (.error .storeUnavailable, m'))
    (huntouched : Untouched r' m') (hpassed : fails.passed? tries k r'.memory.2 = none) :
    ∃ k', Held w fails tries (readsFirst || readsThen) (writesFirst || writesThen) (x >>= f) r r'
      k' := by
  have hfailing' : (x >>= f) (w.failing fails) r' = (.error .storeUnavailable, m') :=
    Action.bind_of_error hfailing
  obtain ⟨more, hcount, hmore⟩ := h.count_bind hf
  refine ⟨k + more, hcount, ?_, ?_, ?_⟩
  · intro hr
    obtain ⟨hfirst, hthen⟩ := Bool.or_eq_false_iff.1 hr
    rw [h.still hfirst, hmore hthen]
  · rw [hfailing']
    exact fun _ => huntouched
  · rw [hfailing', Outage.passed?_add, hpassed]
    exact .cut rfl huntouched

/-- Where the first action goes on, the second decides. An action that is cut off stands behind no
change: the first has made none, or the second reads nothing. -/
theorem Held.bind_kept (horder : writesFirst = false ∨ readsThen = false)
    (h : Held w fails tries readsFirst writesFirst x r r' k) {a : α} {m m' : Run (ω × Nat)}
    (hf : Endures w fails tries readsThen writesThen (f a))
    (hcalm : x (w.failing .never) r = (.ok a, m)) (hfailing : x (w.failing fails) r' = (.ok a, m'))
    (halike : Alike m m') (hpassed : fails.passed? tries k r'.memory.2 = some m'.memory.2) :
    ∃ k', Held w fails tries (readsFirst || readsThen) (writesFirst || writesThen) (x >>= f) r r'
      k' := by
  have hcalm' : (x >>= f) (w.failing .never) r = f a (w.failing .never) m :=
    Action.bind_of_ok hcalm
  have hfailing' : (x >>= f) (w.failing fails) r' = f a (w.failing fails) m' :=
    Action.bind_of_ok hfailing
  have hcount := h.count
  have hquiet := h.quiet
  rw [hcalm] at hcount
  rw [hfailing] at hquiet
  obtain ⟨more, hmore⟩ := hf m m' halike
  refine ⟨k + more, by rw [hcalm', hmore.count, hcount, Nat.add_assoc], ?_, ?_, ?_⟩
  · intro hr
    obtain ⟨hfirst, hthen⟩ := Bool.or_eq_false_iff.1 hr
    rw [h.still hfirst, hmore.still hthen]
  · rw [hfailing']
    intro hw
    obtain ⟨hfirst, hthen⟩ := Bool.or_eq_false_iff.1 hw
    exact (hquiet hfirst).trans (hmore.quiet hthen)
  · have hended := hmore.ended
    rw [hcalm', hfailing', Outage.passed?_add, hpassed, Option.bind_some]
    generalize hrest : fails.passed? tries more m'.memory.2 = rest at hended
    cases hended with
    | kept htold halike => exact .kept htold halike
    | cut htold huntouched =>
        rcases horder with hfirst | hthen
        · exact .cut htold ((hquiet hfirst).trans huntouched)
        · -- Without a read call nothing is cut off.
          rw [hmore.still hthen] at hrest
          cases hrest

end

namespace Endures

/-- Two actions in a row, of which the first changes nothing or the second reads nothing. -/
theorem chain {readsFirst writesFirst readsThen writesThen : Bool} {x : Action (ω × Nat) α}
    {f : α → Action (ω × Nat) β} (horder : writesFirst = false ∨ readsThen = false)
    (hx : Endures w fails tries readsFirst writesFirst x)
    (hf : ∀ w' r a m, x w' r = (.ok a, m) → Endures w fails tries readsThen writesThen (f a)) :
    Endures w fails tries (readsFirst || readsThen) (writesFirst || writesThen) (x >>= f) := by
  intro r r' h
  obtain ⟨k, held⟩ := hx r r' h
  have hended := held.ended
  rcases hcalm : x (w.failing .never) r with ⟨told, m⟩
  rcases hfailing : x (w.failing fails) r' with ⟨told', m'⟩
  rw [hcalm, hfailing] at hended
  generalize hpassed : fails.passed? tries k r'.memory.2 = passed at hended
  cases hended with
  | cut htold huntouched =>
      cases htold
      exact held.bind_cut (fun a m => hf _ r a m) hfailing huntouched hpassed
  | kept htold halike =>
      cases htold
      cases told with
      | error failure => exact ⟨k, held.bind_error hcalm hfailing halike hpassed⟩
      | ok a => exact held.bind_kept horder (hf _ r a m hcalm) hcalm hfailing halike hpassed

/-- An action that changes nothing may stand before any other. -/
theorem bind {x : Action (ω × Nat) α} {f : α → Action (ω × Nat) β}
    (hx : Endures w fails tries reads false x)
    (hf : ∀ a, Endures w fails tries reads writes (f a)) :
    Endures w fails tries reads writes (x >>= f) := by
  have hchain := chain (.inl rfl) hx fun _ _ a _ _ => hf a
  rwa [Bool.or_self, Bool.false_or] at hchain

/-- An action that reads nothing after some value may stand behind one that gives it. -/
theorem bind_knowing {x : Action (ω × Nat) α} {f : α → Action (ω × Nat) β}
    (hx : Endures w fails tries reads writes x)
    (hf : ∀ w' r a m, x w' r = (.ok a, m) → Endures w fails tries false writes (f a)) :
    Endures w fails tries reads writes (x >>= f) := by
  have hchain := chain (.inr rfl) hx hf
  rwa [Bool.or_self, Bool.or_false] at hchain

/-- An action that reads nothing may stand behind any other. -/
theorem bind_writing {x : Action (ω × Nat) α} {f : α → Action (ω × Nat) β}
    (hx : Endures w fails tries reads writes x)
    (hf : ∀ a, Endures w fails tries false writes (f a)) :
    Endures w fails tries reads writes (x >>= f) :=
  hx.bind_knowing fun _ _ a _ _ => hf a

/-- What takes edits back when an action fails takes nothing back that was saved. -/
theorem onFailure {x : Action (ω × Nat) α} {f : Session → Session}
    (hx : Endures w fails tries reads writes x) (hsaved : ∀ σ, (f σ).saved = σ.saved) :
    Endures w fails tries reads writes (x.onFailure f) := by
  intro r r' h
  obtain ⟨k, held⟩ := hx r r' h
  have hback : ∀ end_ : Run (ω × Nat), Untouched r' end_ →
      Untouched r' { end_ with session := f end_.session } :=
    fun end_ hend => ⟨(hsaved _).trans hend.saved, hend.asked⟩
  obtain ⟨hcount, hstill, hquiet, hended⟩ := held
  refine ⟨k, ?_, hstill, ?_, ?_⟩
  · unfold Action.onFailure
    rcases hcalm : x (w.failing .never) r with ⟨_ | _, _⟩ <;> rw [hcalm] at hcount <;> exact hcount
  · intro hw
    have hend := hquiet hw
    unfold Action.onFailure
    rcases hrun : x (w.failing fails) r' with ⟨failure | a, end_⟩ <;> rw [hrun] at hend
    · exact hback end_ hend
    · exact hend
  · unfold Action.onFailure
    generalize x (w.failing .never) r = calm at hended ⊢
    generalize x (w.failing fails) r' = failing at hended ⊢
    generalize fails.passed? tries k r'.memory.2 = passed at hended ⊢
    obtain ⟨told, end_⟩ := calm
    obtain ⟨told', end_'⟩ := failing
    cases hended with
    | kept htold halike =>
        cases htold
        cases told with
        | error failure =>
            exact .kept rfl ⟨congrArg f halike.session, halike.memory, halike.outward⟩
        | ok a => exact .kept rfl halike
    | cut htold huntouched =>
        cases htold
        exact .cut rfl (hback _ huntouched)

end Endures

/-! ## Read calls -/

theorem lookedUp_untouched (words : List Int) (read : Store → α) {wait : Wait (ω × Nat)}
    (hwait : ∀ q ∈ wait.asked, q.IsLookup) (r : Run (ω × Nat)) :
    Untouched r (r.lookedUp words read wait).2 := by
  have hsaved : (r.session.lookedUp words read).2.saved = r.session.saved := by
    unfold Session.lookedUp
    split
    · split <;> rfl
    · rfl
  have hasked : (r.lookedUp words read wait).2.asked = r.asked ++ wait.asked := by
    unfold Run.lookedUp
    split <;> rfl
  refine ⟨?_, wait.asked, hasked, fun q hq => Question.not_alters_of_isLookup (hwait q hq)⟩
  unfold Run.lookedUp
  split
  · exact hsaved
  · rfl

theorem wait_never (attempts : Int) (m : ω) (n : Nat) :
    (w.failing .never).wait attempts (m, n) = ⟨true, (m, n + 1), [.lookup]⟩ :=
  Surroundings.wait_of_answer (w := w.failing .never) (m := (m, n)) rfl attempts

/-- A read call takes no notice of an outage that ends while it still tries. -/
theorem look_endures (s : Settings) (words : List Int) (read : Store → α) :
    Endures w fails (Patience.calls s.attempts) true writes (look s words read) := by
  rintro ⟨σ, ⟨m, n⟩, asked⟩ ⟨σ', ⟨m', n'⟩, asked'⟩ ⟨hsession, hmemory, houtward⟩
  cases hsession
  cases hmemory
  cases hblocked : σ.blocked with
  | some message =>
      -- A session that is blocked is told so at once, with and without the outage.
      have hfail : Endures w fails (Patience.calls s.attempts) true writes
          (Action.fail (.rollbackPending message) : Action (ω × Nat) α) := .fail _
      obtain ⟨k, held⟩ := hfail ⟨σ, (m, n), asked⟩ ⟨σ, (m, n'), asked'⟩ ⟨rfl, rfl, houtward⟩
      exact ⟨k, held.of_eq (look_blocked hblocked s words read)
        (look_blocked hblocked s words read)⟩
  | none => ?_
  have hlookups := (w.failing fails).wait_isLookup s.attempts (m, n')
  have htries : Patience.calls s.attempts - 1 + 1 = Patience.calls s.attempts :=
    Nat.sub_add_cancel (Nat.le_max_right _ _)
  have hwait := failing_waitFor w fails (Patience.calls s.attempts - 1) 1 m n'
  rw [htries] at hwait
  refine ⟨1, ?_, ?_, ?_, ?_⟩
  · rw [look_apply hblocked, wait_never]
    exact readsOf_append asked [.lookup]
  · intro hr
    cases hr
  · intro _
    rw [look_apply hblocked]
    exact lookedUp_untouched words read hlookups _
  · have hone : fails.passed? (Patience.calls s.attempts) 1 n' =
        fails.answered? (Patience.calls s.attempts) n' := by
      simp [Outage.passed?]
    rw [hone, look_apply hblocked, look_apply hblocked, wait_never]
    have hasked : outward (asked' ++ ((w.failing fails).wait s.attempts (m, n')).asked) =
        outward (asked ++ [.lookup]) := by
      rw [outward_append, outward_append, outward_of_isLookup hlookups]
      exact congrArg (· ++ []) houtward
    cases hanswered : fails.answered? (Patience.calls s.attempts) n' with
    | none =>
        rw [hanswered] at hwait
        refine .cut ?_ (lookedUp_untouched words read hlookups _)
        simp [Run.lookedUp, Surroundings.wait, hwait]
    | some n'' =>
        rw [hanswered] at hwait
        obtain ⟨htold, hmemory⟩ := hwait
        have htold : ((w.failing fails).wait s.attempts (m, n')).answered = true := htold
        have hmemory : ((w.failing fails).wait s.attempts (m, n')).memory = (m, n'') := hmemory
        generalize (w.failing fails).wait s.attempts (m, n') = wait at htold hmemory hasked
        obtain ⟨answered, memory, waited⟩ := wait
        cases htold
        cases hmemory
        exact .kept rfl ⟨rfl, rfl, hasked⟩

end

end Desk
end TenderDesk
