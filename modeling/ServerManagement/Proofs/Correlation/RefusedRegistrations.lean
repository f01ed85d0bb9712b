import ServerManagement.Proofs.Correlation.Deliveries
import ServerManagement.Proofs.Correlation.OverriddenEntries

/-!
Registrations that fail because their identifier has an entry. The entry is overridden before the
registration fails, so its receiver gets nothing any more; nothing else is different from a run that
is spared all such registrations.
-/

set_option autoImplicit false

namespace ServerManagement

namespace NamedCorrelator

def refuses (state : NamedCorrelator) (next : Step) : Bool :=
  match (state.step next).1 with
  | .registeredTwice _ => true
  | .id _ | .registered | .flag _ | .receipt _ | .unknownName => false

/-- The operations without the registrations that fail. -/
def accepted (state : NamedCorrelator) : List Step → List Step
  | [] => []
  | next :: steps =>
    if state.refuses next then accepted (state.step next).2 steps
    else next :: accepted (state.step next).2 steps

/-- What the operations lead to without those that fail. -/
def runAccepted (steps : List Step) : NamedCorrelator := empty.run (accepted empty steps)

/-- The ticket to whose slot the entry leads that a registration overrides. -/
def Step.overrides? (state : NamedCorrelator) : Step → Option Nat
  | .register id _ => state.correlator.entries.find? id
  | .nextId | .resolve _ | .remove _ | .take _ | .drop _ => none

/-- A registration that failed has overridden the entry that led to the slot of the ticket. Tickets
are those of the run that is spared such registrations. -/
def Overridden (steps : List Step) (ticket : Nat) : Prop :=
  ∃ before next after, steps = before ++ next :: after ∧
    next.overrides? (runAccepted before) = some ticket

theorem overridden_iff {steps : List Step} {ticket : Nat} :
    Overridden steps ticket ↔ ∃ place : Fin steps.length,
      (steps.get place).overrides? (runAccepted (steps.take place)) = some ticket := by
  constructor
  · intro overridden
    obtain ⟨before, next, after, rfl, found⟩ := overridden
    refine ⟨⟨before.length, by simp⟩, ?_⟩
    simpa using found
  · intro somewhere
    obtain ⟨place, found⟩ := somewhere
    refine ⟨steps.take place, steps.get place, steps.drop (place + 1), ?_, found⟩
    rw [List.get_eq_getElem, List.getElem_cons_drop, List.take_append_drop]

instance (steps : List Step) (ticket : Nat) : Decidable (Overridden steps ticket) :=
  decidable_of_iff _ overridden_iff.symm

/-! ## One more operation -/

theorem accepted_snoc (state : NamedCorrelator) (steps : List Step) (next : Step) :
    accepted state (steps ++ [next]) =
      accepted state steps ++ if (state.run steps).refuses next then [] else [next] := by
  induction steps generalizing state with
  | nil => cases refused : state.refuses next <;> simp [accepted, run, refused]
  | cons first steps ih =>
      have later : state.run (first :: steps) = (state.step first).2.run steps := rfl
      rw [List.cons_append, accepted, accepted, ih, later]
      split <;> rfl

theorem runAccepted_snoc_of_refused {steps : List Step} {next : Step}
    (refused : (empty.run steps).refuses next = true) :
    runAccepted (steps ++ [next]) = runAccepted steps := by
  rw [runAccepted, accepted_snoc, refused, if_pos rfl, List.append_nil, runAccepted]

theorem runAccepted_snoc_of_accepted {steps : List Step} {next : Step}
    (accepts : (empty.run steps).refuses next = false) :
    runAccepted (steps ++ [next]) = ((runAccepted steps).step next).2 := by
  rw [runAccepted, accepted_snoc, accepts, if_neg Bool.false_ne_true, run_snoc, runAccepted]

/-- An operation among some is the last of them, or it is followed by the last. -/
theorem snoc_eq_iff {steps before after : List Step} {next mid : Step} :
    steps ++ [next] = before ++ mid :: after ↔
      (after = [] ∧ steps = before ∧ next = mid) ∨
        ∃ others, after = others ++ [next] ∧ steps = before ++ mid :: others := by
  constructor
  · intro split
    rcases List.eq_nil_or_concat after with rfl | ⟨others, last, rfl⟩
    · obtain ⟨same, equal⟩ := List.append_inj' split rfl
      exact .inl ⟨rfl, same, List.singleton_inj.mp equal⟩
    · have parts : steps ++ [next] = (before ++ mid :: others) ++ [last] := by simpa using split
      obtain ⟨same, equal⟩ := List.append_inj' parts rfl
      exact .inr ⟨others, by simp [List.singleton_inj.mp equal], same⟩
  · rintro (⟨rfl, rfl, rfl⟩ | ⟨others, rfl, rfl⟩)
    · rfl
    · simp

theorem overridden_snoc_iff {steps : List Step} {next : Step} {ticket : Nat} :
    Overridden (steps ++ [next]) ticket ↔
      Overridden steps ticket ∨ next.overrides? (runAccepted steps) = some ticket := by
  constructor
  · intro overridden
    obtain ⟨before, mid, after, split, found⟩ := overridden
    rcases snoc_eq_iff.mp split with ⟨_, rfl, rfl⟩ | ⟨others, _, parts⟩
    · exact .inr found
    · exact .inl ⟨before, mid, others, parts, found⟩
  · rintro (⟨before, mid, after, parts, found⟩ | found)
    · exact ⟨before, mid, _, snoc_eq_iff.mpr (.inr ⟨after, rfl, parts⟩), found⟩
    · exact ⟨steps, next, [], rfl, found⟩

theorem refuses_iff {state : NamedCorrelator} {next : Step} :
    state.refuses next = true ↔ ∃ id name, next = .register id name ∧
      state.correlator.entries.find? id ≠ none := by
  cases next with
  | register id name =>
      cases found : state.correlator.entries.find? id <;>
        simp [refuses, step, Correlator.register, found]
  | nextId | resolve | remove => simp [refuses, step]
  | take name | drop name => cases found : state.tickets.find? name <;> simp [refuses, step, found]

theorem unlisted_of_accepted {state : NamedCorrelator} {id : UInt64} {name : String}
    (accepts : state.refuses (.register id name) = false) :
    state.correlator.entries.find? id = none := by
  by_contra listed
  exact Bool.eq_false_iff.mp accepts (refuses_iff.mpr ⟨id, name, rfl, listed⟩)

theorem Proper.snoc {steps : List Step} {next : Step} (proper : Proper steps)
    (fresh : ∀ id name, next = .register id name →
      ∀ registered ∈ registrations steps, registered.isListed = true → registered.id ≠ id) :
    Proper (steps ++ [next]) := by
  intro before id name after split
  rcases snoc_eq_iff.mp split with ⟨_, rfl, made⟩ | ⟨others, _, parts⟩
  · exact fresh id name made
  · exact proper before id name others parts

/-! ## Runs beside those that are spared -/

structure Follows (places : List Nat) (lost : Nat → Prop) (actual spared : NamedCorrelator) :
    Prop where
  correlator : actual.correlator.Follows places lost spared.correlator
  tickets : ∀ name, Option.Rel (fun place ticket => places[ticket]? = some place)
    (actual.tickets.find? name) (spared.tickets.find? name)

namespace Follows

variable {places : List Nat} {lost : Nat → Prop} {actual spared : NamedCorrelator}

theorem held_cases (follows : Follows places lost actual spared) (name : String) :
    (actual.tickets.find? name = none ∧ spared.tickets.find? name = none) ∨
      ∃ place ticket, actual.tickets.find? name = some place ∧
        spared.tickets.find? name = some ticket ∧ places[ticket]? = some place := by
  have held := follows.tickets name
  generalize actual.tickets.find? name = place at held
  generalize spared.tickets.find? name = ticket at held
  cases held with
  | none => exact .inl ⟨rfl, rfl⟩
  | some here => exact .inr ⟨_, _, rfl, rfl, here⟩

theorem hold (follows : Follows places lost actual spared) {ticket place : Nat}
    (here : places[ticket]? = some place) (name : String) :
    Follows places lost (actual.hold name place) (spared.hold name ticket) := by
  constructor
  case correlator =>
    unfold NamedCorrelator.hold
    rcases follows.held_cases name with ⟨free, freeToo⟩ | ⟨older, other, held, heldToo, there⟩
    · rw [free, freeToo]
      exact follows.correlator
    · rw [held, heldToo]
      exact follows.correlator.abandon there
  case tickets =>
    intro another
    simp only [NamedCorrelator.hold, Directory.find?_insert]
    split
    · exact .some here
    · exact follows.tickets another

theorem register (follows : Follows places lost actual spared) {id : UInt64} (name : String)
    (unlisted : actual.correlator.entries.find? id = none) :
    Follows (places ++ [actual.correlator.slots.length]) lost
      (actual.step (.register id name)).2 (spared.step (.register id name)).2 := by
  have unlistedToo := follows.correlator.unlisted.mp unlisted
  have grown := follows.correlator.register_of_unlisted unlisted unlistedToo
  rw [Correlator.register_of_unlisted unlisted,
    Correlator.register_of_unlisted unlistedToo] at grown
  simp only [NamedCorrelator.step, Correlator.register_of_unlisted unlisted,
    Correlator.register_of_unlisted unlistedToo]
  refine hold ⟨grown, fun name => ?_⟩ ?_ name
  · rcases follows.held_cases name with ⟨free, freeToo⟩ | ⟨place, ticket, held, heldToo, here⟩
    · rw [free, freeToo]
      exact .none
    · have inside := (List.getElem?_eq_some_iff.mp here).1
      rw [held, heldToo]
      exact .some ((List.getElem?_append_left inside).trans here)
  · simp [← follows.correlator.length]

/-- An operation that does not fail keeps the two beside each other. -/
theorem step (follows : Follows places lost actual spared) {next : Step}
    (accepts : actual.refuses next = false) :
    ∃ later, Follows later lost (actual.step next).2 (spared.step next).2 := by
  cases next with
  | nextId => exact ⟨places, follows.correlator.nextId, follows.tickets⟩
  | register id name => exact ⟨_, follows.register name (unlisted_of_accepted accepts)⟩
  | resolve response => exact ⟨places, (follows.correlator.resolve response).2, follows.tickets⟩
  | remove id => exact ⟨places, (follows.correlator.remove id).2, follows.tickets⟩
  | take name =>
      rcases follows.held_cases name with ⟨free, freeToo⟩ | ⟨place, ticket, held, heldToo, here⟩
      · simp only [NamedCorrelator.step, free, freeToo]
        exact ⟨places, follows⟩
      · simp only [NamedCorrelator.step, held, heldToo]
        exact ⟨places, (follows.correlator.take here).2.2, follows.tickets⟩
  | drop name =>
      rcases follows.held_cases name with ⟨free, freeToo⟩ | ⟨place, ticket, held, heldToo, here⟩
      · simp only [NamedCorrelator.step, free, freeToo]
        exact ⟨places, follows⟩
      · simp only [NamedCorrelator.step, held, heldToo]
        refine ⟨places, follows.correlator.abandon here, fun other => ?_⟩
        rw [Directory.find?_erase, Directory.find?_erase]
        split
        · exact .none
        · exact follows.tickets other

/-! ### Answers -/

theorem answer_register (follows : Follows places lost actual spared) (id : UInt64)
    (name : String) :
    (actual.step (.register id name)).1 = (spared.step (.register id name)).1 := by
  have leads := follows.correlator.entries id
  simp only [NamedCorrelator.step, Correlator.register]
  generalize actual.correlator.entries.find? id = entry at leads
  generalize spared.correlator.entries.find? id = other at leads
  cases leads <;> rfl

theorem answer_drop (follows : Follows places lost actual spared) (name : String) :
    (actual.step (.drop name)).1 = (spared.step (.drop name)).1 := by
  rcases follows.held_cases name with ⟨free, freeToo⟩ | ⟨place, ticket, held, heldToo, _⟩
  · simp only [NamedCorrelator.step, free, freeToo]
  · simp only [NamedCorrelator.step, held, heldToo]

/-- A look at a receiver brings what it would bring, unless its registration is lost. -/
theorem answer_take (follows : Follows places lost actual spared) (name : String) :
    (∀ ticket, spared.tickets.find? name = some ticket → lost ticket →
      (actual.step (.take name)).1 = .receipt .closed) ∧
    ((∀ ticket, spared.tickets.find? name = some ticket → ¬lost ticket) →
      (actual.step (.take name)).1 = (spared.step (.take name)).1) := by
  rcases follows.held_cases name with ⟨free, freeToo⟩ | ⟨place, ticket, held, heldToo, here⟩
  · simp [NamedCorrelator.step, free, freeToo]
  · simp only [NamedCorrelator.step, held, heldToo]
    obtain ⟨closed, same, _⟩ := follows.correlator.take here
    constructor
    · intro other known gone
      exact congrArg Answer.receipt (closed (Option.some.inj known ▸ gone))
    · intro sound
      exact congrArg Answer.receipt (same (sound ticket rfl))

end Follows

namespace Mirrors

variable {state : NamedCorrelator} {known : List Registered} {id other : UInt64} {ticket : Nat}

theorem entry_single (mirrors : Mirrors state known)
    (found : state.correlator.entries.find? id = some ticket)
    (again : state.correlator.entries.find? other = some ticket) : other = id := by
  obtain ⟨registered, here, _, rfl⟩ := mirrors.of_entry found
  obtain ⟨same, there, _, rfl⟩ := mirrors.of_entry again
  exact congrArg Registered.id (Option.some.inj (there.symm.trans here))

theorem lt_of_entry (mirrors : Mirrors state known)
    (found : state.correlator.entries.find? id = some ticket) :
    ticket < state.correlator.slots.length := by
  obtain ⟨registered, here, _⟩ := mirrors.of_entry found
  rw [mirrors.slots, List.length_map]
  exact (List.getElem?_eq_some_iff.mp here).1

/-- An entry leads to no slot that is answered. -/
theorem unlisted_of_entry (mirrors : Mirrors state known)
    (found : state.correlator.entries.find? id = some ticket) :
    (state.correlator.slot ticket).unlisted = (state.correlator.slot ticket).forsaken := by
  obtain ⟨registered, here, listed, _⟩ := mirrors.of_entry found
  rw [mirrors.slot_eq here]
  cases held : registered.isHeld with
  | true => rw [Registered.slot_eq_awaiting_iff.mpr ⟨held, listed⟩]; rfl
  | false => rw [Registered.slot_of_abandoned held]; rfl

end Mirrors

/-- A registration that fails overrides the entry of its identifier. -/
theorem Follows.refuse {places : List Nat} {lost : Nat → Prop} {actual spared : NamedCorrelator}
    {known : List Registered} {id : UInt64} {name : String}
    (follows : Follows places lost actual spared) (mirrors : Mirrors spared known)
    (listed : actual.correlator.entries.find? id ≠ none) {after : Nat → Prop}
    (grows : ∀ ticket,
      after ticket ↔ lost ticket ∨ spared.correlator.entries.find? id = some ticket) :
    Follows places after (actual.step (.register id name)).2 spared := by
  obtain ⟨older, entered⟩ := Option.ne_none_iff_exists'.mp listed
  obtain ⟨ticket, found⟩ :=
    Option.ne_none_iff_exists'.mp (follows.correlator.unlisted.not.mp listed)
  have stepped : (actual.step (.register id name)).2 =
      { actual with correlator := (actual.correlator.register id).2 } := by
    simp only [NamedCorrelator.step, Correlator.register, entered]
  rw [stepped]
  refine ⟨?_, follows.tickets⟩
  refine follows.correlator.register_of_listed found (fun other again => ?_) ?_ ?_ fun other => ?_
  · exact mirrors.entry_single found again
  · exact mirrors.unlisted_of_entry found
  · exact mirrors.lt_of_entry found
  · rw [grows, found, Option.some.injEq, eq_comm (a := ticket)]

/-- The operations that do not fail are proper, and the run stands beside the one that is spared
those that do; the overridden registrations are lost. -/
theorem follows_run (steps : List Step) :
    Proper (accepted empty steps) ∧
      ∃ places, Follows places (Overridden steps) (empty.run steps) (runAccepted steps) := by
  induction steps using List.reverseRecOn with
  | nil =>
      have none (ticket : Nat) : ¬Overridden [] ticket := by
        intro overridden
        obtain ⟨before, _, _, split, _⟩ := overridden
        cases before <;> cases split
      refine ⟨fun before _ _ _ split => ?_, [], ⟨rfl, rfl, .nil, ?_, ?_, ?_, ?_⟩, ?_⟩
      · cases before <;> cases split
      · exact fun _ member => nomatch member
      · exact fun ticket gone => absurd gone (none ticket)
      · exact fun _ => .absent
      · exact fun _ _ here => nomatch here
      · exact fun _ => .none
  | append_singleton steps next ih =>
      obtain ⟨proper, places, follows⟩ := ih
      have mirrors : Mirrors (runAccepted steps) _ := mirrors_run proper
      rw [run_snoc, accepted_snoc]
      cases refused : (empty.run steps).refuses next with
      | true =>
          obtain ⟨id, name, rfl, listed⟩ := refuses_iff.mp refused
          rw [runAccepted_snoc_of_refused refused, if_pos rfl, List.append_nil]
          exact ⟨proper, places, follows.refuse mirrors listed fun _ => overridden_snoc_iff⟩
      | false =>
          rw [runAccepted_snoc_of_accepted refused, if_neg Bool.false_ne_true]
          have fresh : ∀ id name, next = .register id name →
              (runAccepted steps).correlator.entries.find? id = none := by
            rintro id name rfl
            exact follows.correlator.unlisted.mp (unlisted_of_accepted refused)
          have same : Overridden (steps ++ [next]) = Overridden steps := by
            funext ticket
            refine propext (overridden_snoc_iff.trans (or_iff_left fun found => ?_))
            cases next with
            | register id name => cases (fresh id name rfl).symm.trans found
            | nextId | resolve | remove | take | drop => cases found
          refine ⟨proper.snoc fun id name made registered member listed => ?_, ?_⟩
          · exact mirrors.unlisted (fresh id name made) member listed
          · rw [same]
            exact follows.step refused

/-- What is different from a run without the registrations that fail. Those left are proper. The
sizes are the same, and so are the answers to all operations, except that no response is led to a
registration whose entry was overridden, and its receiver is closed. -/
theorem refused_registrations_override (steps : List Step) :
    Proper (accepted empty steps) ∧
    (empty.run steps).correlator.size = (runAccepted steps).correlator.size ∧
    ((empty.run steps).step .nextId).1 = ((runAccepted steps).step .nextId).1 ∧
    (∀ id name,
      ((empty.run steps).step (.register id name)).1 =
        ((runAccepted steps).step (.register id name)).1) ∧
    (∀ id,
      ((empty.run steps).step (.remove id)).1 = ((runAccepted steps).step (.remove id)).1) ∧
    (∀ name,
      ((empty.run steps).step (.drop name)).1 = ((runAccepted steps).step (.drop name)).1) ∧
    (∀ response,
      ((empty.run steps).step (.resolve response)).1 = .flag true ↔
        ((runAccepted steps).step (.resolve response)).1 = .flag true ∧
          ∀ id ticket, response.id = some id →
            (runAccepted steps).correlator.entries.find? id = some ticket →
              ¬Overridden steps ticket) ∧
    (∀ name ticket,
      (runAccepted steps).tickets.find? name = some ticket → Overridden steps ticket →
        ((empty.run steps).step (.take name)).1 = .receipt .closed) ∧
    ∀ name,
      (∀ ticket, (runAccepted steps).tickets.find? name = some ticket →
        ¬Overridden steps ticket) →
      ((empty.run steps).step (.take name)).1 = ((runAccepted steps).step (.take name)).1 := by
  obtain ⟨proper, places, follows⟩ := follows_run steps
  refine ⟨proper, follows.correlator.size_eq, ?_, follows.answer_register, fun id => ?_,
    follows.answer_drop, fun response => ?_, fun name => (follows.answer_take name).1,
    fun name => (follows.answer_take name).2⟩
  · exact congrArg (fun last => Answer.id (last + 1)) follows.correlator.lastId
  · exact congrArg Answer.flag (follows.correlator.remove id).1
  · simpa [step] using (follows.correlator.resolve response).1

/-- The receiver whose entry was overridden is closed, and the other one is answered. -/
theorem refused_registrations_override_of_two :
    let answer (id : UInt64) : Step := .resolve (.success id (.bool true))
    let steps : List Step := [.register 1 "first", .register 2 "second", .register 1 "again",
      answer 1, answer 2]
    Overridden steps 0 ∧ ¬Overridden steps 1 ∧
      ((empty.run steps).step (.take "first")).1 = .receipt .closed ∧
      ((empty.run steps).step (.take "second")).1 =
        .receipt (.value (.success 2 (.bool true))) := by
  intro answer steps
  have gone : Overridden steps 0 := by decide +kernel
  have sound : ¬Overridden steps 1 := by decide +kernel
  obtain ⟨_, _, _, _, _, _, _, closed, same⟩ := refused_registrations_override steps
  refine ⟨gone, sound, closed "first" 0 (by decide +kernel) gone, ?_⟩
  have second : (runAccepted steps).tickets.find? "second" = some 1 := by decide +kernel
  refine (same "second" fun ticket held => ?_).trans (by decide +kernel)
  exact Option.some.inj (second.symm.trans held) ▸ sound

/-- The response to the first registration is led to nobody, and its receiver is closed, because of
a registration that failed. -/
theorem failed_registration_has_effect :
    let steps : List Step := [.register 1 "a", .register 1 "b"]
    let answer : Step := .resolve (.success 1 (.bool true))
    accepted empty steps = [.register 1 "a"] ∧
      ((empty.run steps).step answer).1 = .flag false ∧
      ((runAccepted steps).step answer).1 = .flag true ∧
      ((empty.run (steps ++ [answer])).step (.take "a")).1 = .receipt .closed ∧
      ((runAccepted (steps ++ [answer])).step (.take "a")).1 =
        .receipt (.value (.success 1 (.bool true))) := by
  refine ⟨rfl, ?_, ?_, ?_, ?_⟩ <;> decide

end NamedCorrelator

end ServerManagement
