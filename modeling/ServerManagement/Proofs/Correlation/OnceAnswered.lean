import ServerManagement.Proofs.Correlation.Deliveries

/-!
What the answers of the correlator tell. A receiver obtains at most one response, the first that is
resolved for its registration, and every flag and every size is what the registrations say.
-/

set_option autoImplicit false

namespace ServerManagement

namespace NamedCorrelator

open Registered

/-! ## The answer to one operation -/

def handed (name : String) (state : NamedCorrelator) (next : Step) : Option Response :=
  match next.takes name, (state.step next).1 with
  | true, .receipt (.value response) => some response
  | _, _ => none

/-- The responses that the receiver of a name obtains until it goes. -/
def obtained (name : String) (state : NamedCorrelator) : List Step → List Response
  | [] => []
  | next :: steps =>
    if next.surrenders name then []
    else (handed name state next).toList ++ obtained name (state.step next).2 steps

theorem obtained_snoc (name : String) (state : NamedCorrelator) (steps : List Step) (next : Step) :
    obtained name state (steps ++ [next]) =
      obtained name state steps ++
        if steps.any (Step.surrenders name) || next.surrenders name then []
        else (handed name (state.run steps) next).toList := by
  induction steps generalizing state with
  | nil => cases surrenders : next.surrenders name <;> simp [obtained, surrenders, run]
  | cons first steps ih =>
      cases surrenders : first.surrenders name with
      | true => simp [obtained, surrenders]
      | false => simp [obtained, surrenders, ih, run]

namespace Registered

variable {registered : Registered} {next : Step} {response : Response}

/-- The first response that is resolved for the identifier after the registration, with no removal of
the identifier and no loss of the receiver in between. -/
theorem delivery?_eq_some_iff :
    registered.delivery? = some response ↔
      ∃ before rest, registered.later = before ++ .resolve response :: rest ∧
        response.id = some registered.id ∧
        ∀ step ∈ before,
          step.settles registered.id = false ∧ step.surrenders registered.name = false := by
  obtain ⟨id, name, later⟩ := registered
  simp only [delivery?]
  constructor
  · intro delivered
    induction later with
    | nil => cases delivered
    | cons first later ih =>
        rw [firstDelivery] at delivered
        split at delivered
        · rename_i settles
          cases first with
          | resolve other =>
              obtain rfl := Option.some.inj delivered
              exact ⟨[], later, rfl, eq_of_beq settles,
                fun _ member => absurd member List.not_mem_nil⟩
          | nextId | register | remove | take | drop => cases delivered
        · rename_i unsettled
          split at delivered
          · cases delivered
          · rename_i kept
            obtain ⟨before, rest, rfl, meant, quiet⟩ := ih delivered
            refine ⟨first :: before, rest, rfl, meant, List.forall_mem_cons.mpr ⟨?_, quiet⟩⟩
            exact ⟨Bool.eq_false_iff.mpr unsettled, Bool.eq_false_iff.mpr kept⟩
  · rintro ⟨before, rest, rfl, meant, quiet⟩
    induction before with
    | nil => simp [firstDelivery, Step.settles, Step.response?, meant]
    | cons first before ih =>
        obtain ⟨⟨unsettled, kept⟩, quiet⟩ := List.forall_mem_cons.mp quiet
        simpa [firstDelivery, unsettled, kept] using ih quiet

/-- A response is delivered where the registration is listed and its receiver is held. -/
theorem delivers_iff :
    registered.delivery? = none ∧ (registered.after (.resolve response)).delivery? = some response ↔
      registered.isListed = true ∧ registered.isHeld = true ∧ response.id = some registered.id := by
  rw [delivery?_after]
  split
  · rename_i meets
    simp only [Bool.and_eq_true, Step.settles, beq_iff_eq] at meets
    obtain ⟨⟨listed, held⟩, meant⟩ := meets
    exact iff_of_true ⟨delivery?_of_listed listed, rfl⟩ ⟨listed, held, meant⟩
  · rename_i misses
    constructor
    · rintro ⟨none, some⟩
      cases none.symm.trans some
    · rintro ⟨listed, held, meant⟩
      exact absurd (by simp [listed, held, Step.settles, meant]) misses

/-- What someone got who looked at the receiver. -/
def gained (registered : Registered) : List Response :=
  if registered.isTaken then registered.delivery?.toList else []

theorem gained_after :
    (registered.after next).gained =
      registered.gained ++
        (if registered.isHeld && next.takes registered.name && !registered.isListed &&
          !registered.isTaken then registered.delivery?
        else none).toList := by
  unfold gained
  rw [isTaken_after, delivery?_after]
  cases listed : registered.isListed with
  | true => simp [not_isTaken_of_listed listed]
  | false =>
      cases registered.isTaken with
      | true => simp
      | false => cases registered.isHeld <;> cases next.takes registered.name <;> simp

end Registered

namespace Mirrors

variable {state : NamedCorrelator} {known : List Registered}

theorem answer_resolve (mirrors : Mirrors state known) (response : Response) :
    ∃ flag, (state.step (.resolve response)).1 = .flag flag ∧
      (flag = true ↔ ∃ registered ∈ known,
        registered.delivery? = none ∧
          (registered.after (.resolve response)).delivery? = some response) := by
  refine ⟨(state.correlator.resolve response).1, rfl, ?_⟩
  simp only [delivers_iff]
  constructor
  · intro found
    unfold Correlator.resolve at found
    split at found
    · cases found
    · rename_i id meant
      split at found
      · cases found
      · rename_i ticket entered
        obtain ⟨registered, here, listed, rfl⟩ := mirrors.of_entry entered
        split at found
        · rename_i awaiting
          rw [mirrors.slot_eq here] at awaiting
          exact ⟨registered, List.mem_of_getElem? here, listed,
            (slot_eq_awaiting_iff.mp awaiting).1, meant⟩
        · cases found
  · rintro ⟨registered, member, listed, held, meant⟩
    obtain ⟨ticket, here⟩ := List.getElem?_of_mem member
    have awaiting : state.correlator.slot ticket = .awaiting :=
      (mirrors.slot_eq here).trans (slot_eq_awaiting_iff.mpr ⟨held, listed⟩)
    rw [Correlator.resolve_of_awaiting meant (mirrors.find?_entry here listed) awaiting]

theorem answer_remove (mirrors : Mirrors state known) (id : UInt64) :
    ∃ flag, (state.step (.remove id)).1 = .flag flag ∧
      (flag = true ↔ ∃ registered ∈ known, registered.isListed = true ∧ registered.id = id) := by
  refine ⟨(state.correlator.remove id).1, rfl, ?_⟩
  cases found : state.correlator.entries.find? id with
  | none =>
      refine iff_of_false (by simp [Correlator.remove, found]) ?_
      rintro ⟨registered, member, listed, same⟩
      exact mirrors.unlisted found member listed same
  | some ticket =>
      obtain ⟨registered, here, listed, same⟩ := mirrors.of_entry found
      refine iff_of_true (by simp [Correlator.remove, found]) ?_
      exact ⟨registered, List.mem_of_getElem? here, listed, same⟩

theorem answer_take (mirrors : Mirrors state known) {registered : Registered}
    (member : registered ∈ known) (held : registered.isHeld = true) :
    (state.step (.take registered.name)).1 = .receipt registered.receipt := by
  obtain ⟨ticket, here⟩ := List.getElem?_of_mem member
  have content := mirrors.slot_eq here
  simp only [Registered.slot, held, if_true] at content
  simp only [NamedCorrelator.step, mirrors.find?_ticket here held, Correlator.take, content]
  cases registered.receipt <;> rfl

/-- What is not in the table cannot be settled. -/
theorem unmoved_of_absent (mirrors : Mirrors state known) {id : UInt64}
    (unlisted : ∀ registered ∈ known, registered.isListed = true → registered.id ≠ id) :
    state.step (.remove id) = (.flag false, state) ∧
      ∀ response : Response, response.id = some id →
        state.step (.resolve response) = (.flag false, state) := by
  have absent := mirrors.absent_of_unlisted unlisted
  refine ⟨by simp [NamedCorrelator.step, Correlator.remove, absent], fun response meant => ?_⟩
  simp [NamedCorrelator.step, Correlator.resolve_of_unlisted meant absent]

theorem size_eq (mirrors : Mirrors state known) :
    state.correlator.size = known.countP isListed := by
  rw [Correlator.size, Directory.Indexes.size_eq mirrors.entries, List.countP_map]
  refine List.countP_congr fun registered _ => ?_
  cases listed : registered.isListed <;> simp [entry, listed]

/-- A look at the receiver brings what is there, and then it is taken. -/
theorem handed_eq (mirrors : Mirrors state known) {registered : Registered}
    (member : registered ∈ known) (held : registered.isHeld = true) (next : Step) :
    handed registered.name state next =
      if next.takes registered.name && !registered.isListed && !registered.isTaken then
        registered.delivery?
      else none := by
  cases takes : next.takes registered.name with
  | false => simp [handed, takes]
  | true =>
      cases next with
      | nextId | register | resolve | remove | drop => cases takes
      | take name =>
          obtain rfl := eq_of_beq takes
          rw [handed, takes, mirrors.answer_take member held, receipt]
          cases registered.isListed <;> cases registered.isTaken <;>
            cases registered.delivery? <;> rfl

end Mirrors

theorem run_append (state : NamedCorrelator) (steps later : List Step) :
    state.run (steps ++ later) = (state.run steps).run later := by
  simp [run]

/-- The registration that an operation makes is among those that the operations before and after it
make. -/
theorem mem_registrations (before : List Step) (id : UInt64) (name : String) (later : List Step) :
    ⟨id, name, later⟩ ∈ registrations (before ++ .register id name :: later) := by
  induction before with
  | nil => exact List.mem_cons_self ..
  | cons first before ih =>
      cases first with
      | register => exact List.mem_cons_of_mem _ ih
      | nextId | resolve | remove | take | drop => exact ih

theorem obtained_eq {before later : List Step} {id : UInt64} {name : String}
    (proper : Proper (before ++ .register id name :: later)) :
    obtained name (empty.run (before ++ [.register id name])) later =
      gained ⟨id, name, later⟩ := by
  induction later using List.reverseRecOn with
  | nil => rfl
  | append_singleton later next ih =>
      rw [← List.cons_append, ← List.append_assoc] at proper
      have grown : gained (after ⟨id, name, later⟩ next) = _ := gained_after
      have lost : later.any (Step.surrenders name) = !isHeld ⟨id, name, later⟩ :=
        (Bool.not_not _).symm
      rw [obtained_snoc, ih proper.init, ← run_append, List.append_assoc, List.singleton_append, lost]
      refine Eq.trans (congrArg (gained _ ++ ·) ?_) grown.symm
      cases held : isHeld ⟨id, name, later⟩ with
      | false => rfl
      | true =>
          have member := mem_registrations before id name later
          rw [(mirrors_run proper.init).handed_eq member held next]
          cases takes : next.takes name with
          | false => simp
          | true => simp [not_surrenders_of_takes takes]

/-! ## Whole runs -/

/-- Each registration is answered once. With `known` the registrations that the operations made:
`resolve` says that it found a receiver where the response is delivered to a registration, and
`remove` that it found an entry where a registration is listed; what leads nowhere changes nothing;
a receiver that is held shows what its registration says, which is `closed` where it was removed
before a response came; delivered is the first response that is resolved for the identifier before
that is removed and while the receiver is held; as many entries are in the table as registrations
are listed; and each receiver obtains, if anyone looks in time, the response delivered to its
registration and no other. -/
theorem each_registration_answered_once {steps : List Step} (proper : Proper steps) :
    (∀ response, ∃ flag, ((empty.run steps).step (.resolve response)).1 = .flag flag ∧
      (flag = true ↔ ∃ registered ∈ registrations steps, registered.delivery? = none ∧
        (registered.after (.resolve response)).delivery? = some response)) ∧
    (∀ id, ∃ flag, ((empty.run steps).step (.remove id)).1 = .flag flag ∧
      (flag = true ↔
        ∃ registered ∈ registrations steps, registered.isListed = true ∧ registered.id = id)) ∧
    (∀ id,
      (∀ registered ∈ registrations steps, registered.isListed = true → registered.id ≠ id) →
      (empty.run steps).step (.remove id) = (.flag false, empty.run steps) ∧
        ∀ response : Response, response.id = some id →
          (empty.run steps).step (.resolve response) = (.flag false, empty.run steps)) ∧
    (∀ response : Response, response.id = none →
      (empty.run steps).step (.resolve response) = (.flag false, empty.run steps)) ∧
    (∀ registered ∈ registrations steps, registered.isHeld = true →
      ((empty.run steps).step (.take registered.name)).1 = .receipt registered.receipt ∧
        (registered.isListed = false → registered.delivery? = none →
          registered.receipt = .closed)) ∧
    (∀ registered ∈ registrations steps, ∀ response, registered.delivery? = some response ↔
      ∃ before rest, registered.later = before ++ .resolve response :: rest ∧
        response.id = some registered.id ∧
        ∀ step ∈ before,
          step.settles registered.id = false ∧ step.surrenders registered.name = false) ∧
    (empty.run steps).correlator.size = (registrations steps).countP isListed ∧
    ∀ before id name later, steps = before ++ .register id name :: later →
      obtained name (empty.run (before ++ [.register id name])) later =
        gained ⟨id, name, later⟩ := by
  have mirrors := mirrors_run proper
  refine ⟨mirrors.answer_resolve, mirrors.answer_remove, fun id => mirrors.unmoved_of_absent,
    fun response nameless => ?_, fun registered member held => ?_,
    fun registered _ response => delivery?_eq_some_iff, mirrors.size_eq,
    fun before id name later split => ?_⟩
  · simp [step, Correlator.resolve, nameless]
  · refine ⟨mirrors.answer_take member held, fun unlisted undelivered => ?_⟩
    simp [receipt, unlisted, undelivered]
  · exact obtained_eq (split ▸ proper)

/-- A duplicate is not delivered, a receiver that went gets nothing, and an identifier that was
removed is registered anew. -/
theorem each_registration_answered_once_of_duplicate :
    let answer (id : UInt64) (value : Bool) : Step := .resolve (.success id (.bool value))
    let later : List Step := [.register 2 "gone", .drop "gone", answer 2 true, answer 1 true,
      answer 1 false, .take "kept", .take "kept", .register 3 "removed", .remove 3,
      .register 3 "again"]
    let steps := .register 1 "kept" :: later
    Proper steps ∧ (empty.run steps).correlator.size = 1 ∧
      obtained "kept" (empty.run [.register 1 "kept"]) later = [.success 1 (.bool true)] ∧
      ((empty.run steps).step (.take "removed")).1 = .receipt .closed := by
  intro answer later steps
  have proper : Proper steps := by decide +kernel
  obtain ⟨_, _, _, _, looks, _, size, once⟩ := each_registration_answered_once proper
  refine ⟨proper, size.trans (by decide +kernel), ?_, ?_⟩
  · exact (once [] 1 "kept" later rfl).trans (by decide +kernel)
  · exact (looks ⟨3, "removed", [.remove 3, .register 3 "again"]⟩
      (mem_registrations (steps.take 8) _ _ _) rfl).1.trans (by decide +kernel)

end NamedCorrelator

end ServerManagement
