import Mathlib.Data.List.Induction
import ServerManagement.Proofs.Correlation.Registrations
import ServerManagement.Proofs.Correlation.SlotProperties
import ServerManagement.Proofs.Removal

/-!
The table, the names and the slots of a correlator after any operations, told by the registrations
that these made. Each operation keeps the three in step with what it does to a registration.
-/

set_option autoImplicit false

namespace ServerManagement

namespace NamedCorrelator

/-! ## What is seen of a registration -/

namespace Registered

variable {registered : Registered} {next : Step}

def entry (registered : Registered) : Option UInt64 :=
  if registered.isListed then some registered.id else none

def holder (registered : Registered) : Option String :=
  if registered.isHeld then some registered.name else none

def slot (registered : Registered) : Slot :=
  if registered.isHeld then
    match registered.receipt with
    | .empty => .awaiting
    | .value response => .answered response
    | .closed => .closed
  else .abandoned

theorem entry_eq_some_iff {id : UInt64} :
    registered.entry = some id ↔ registered.isListed = true ∧ registered.id = id := by
  unfold entry
  split <;> simp_all

theorem holder_eq_some_iff {name : String} :
    registered.holder = some name ↔ registered.isHeld = true ∧ registered.name = name := by
  unfold holder
  split <;> simp_all

theorem slot_eq_awaiting_iff :
    registered.slot = .awaiting ↔ registered.isHeld = true ∧ registered.isListed = true := by
  unfold slot receipt
  cases registered.isHeld with
  | false => simp
  | true =>
      cases registered.isListed with
      | true => simp
      | false =>
          cases registered.delivery? with
          | none => simp
          | some response => cases registered.isTaken <;> simp

theorem entry_after :
    (registered.after next).entry = if next.settles registered.id then none else registered.entry := by
  unfold entry
  rw [isListed_after]
  cases registered.isListed <;> cases next.settles registered.id <;> simp

theorem holder_after :
    (registered.after next).holder =
      if next.surrenders registered.name then none else registered.holder := by
  unfold holder
  rw [isHeld_after]
  cases registered.isHeld <;> cases next.surrenders registered.name <;> simp

/-- A receiver that goes leaves its slot for good. -/
theorem slot_after_of_surrenders (surrenders : next.surrenders registered.name = true) :
    (registered.after next).slot = .abandoned := by
  simp [slot, isHeld_after, surrenders]

/-- The operation that takes a registration off the table fills its slot or closes it. -/
theorem slot_after_of_settles (held : registered.isHeld = true)
    (listed : registered.isListed = true) (settles : next.settles registered.id = true) :
    (registered.after next).slot =
      match next.response? with
      | some response => .answered response
      | none => .closed := by
  have kept := not_surrenders_of_settles settles registered.name
  have untaken : (registered.after next).isTaken = false := by
    simp [isTaken_after, not_isTaken_of_listed listed, listed]
  simp only [slot, isHeld_after, held, kept, receipt, isListed_after, listed, settles, delivery?_after,
    untaken]
  cases next.response? <;> simp

theorem slot_after_of_takes (held : registered.isHeld = true)
    (unlisted : registered.isListed = false) (takes : next.takes registered.name = true) :
    (registered.after next).slot = .closed := by
  have kept := not_surrenders_of_takes takes registered.name
  have taken : (registered.after next).isTaken = true := by
    simp [isTaken_after, held, unlisted, takes]
  simp only [slot, isHeld_after, held, kept, receipt, isListed_after, unlisted, taken]
  cases (registered.after next).delivery? <;> simp

/-- An operation touches the slot of a registration only if it takes the registration off the table,
if the receiver goes, or if someone looks at it. -/
theorem slot_after_of_apart (kept : next.surrenders registered.name = false)
    (unsettled : registered.isListed = true → next.settles registered.id = false)
    (untaken : registered.isHeld = true → registered.isListed = false →
      next.takes registered.name = false) :
    (registered.after next).slot = registered.slot := by
  unfold slot receipt
  rw [isHeld_after, kept, isListed_after, delivery?_after, isTaken_after]
  cases held : registered.isHeld with
  | false => rfl
  | true =>
      cases listed : registered.isListed with
      | true => simp [unsettled listed]
      | false => simp [untaken held listed]

theorem slot_of_abandoned (gone : registered.isHeld = false) : registered.slot = .abandoned := by
  simp [slot, gone]

end Registered

open Registered

structure Mirrors (state : NamedCorrelator) (known : List Registered) : Prop where
  entries : state.correlator.entries.Indexes (known.map entry)
  tickets : state.tickets.Indexes (known.map holder)
  slots : state.correlator.slots = known.map slot

namespace Mirrors

variable {state : NamedCorrelator} {known : List Registered} {id : UInt64} {name : String}
  {ticket : Nat}

theorem of_entry (mirrors : Mirrors state known)
    (found : state.correlator.entries.find? id = some ticket) :
    ∃ registered, known[ticket]? = some registered ∧ registered.isListed = true ∧
      registered.id = id := by
  have here := (mirrors.entries id ticket).mp found
  rw [List.getElem?_map, Option.map_eq_some_iff] at here
  obtain ⟨registered, here, listed⟩ := here
  exact ⟨registered, here, entry_eq_some_iff.mp listed⟩

theorem of_ticket (mirrors : Mirrors state known) (found : state.tickets.find? name = some ticket) :
    ∃ registered, known[ticket]? = some registered ∧ registered.isHeld = true ∧
      registered.name = name := by
  have here := (mirrors.tickets name ticket).mp found
  rw [List.getElem?_map, Option.map_eq_some_iff] at here
  obtain ⟨registered, here, held⟩ := here
  exact ⟨registered, here, holder_eq_some_iff.mp held⟩

theorem find?_entry (mirrors : Mirrors state known) {registered : Registered}
    (here : known[ticket]? = some registered) (listed : registered.isListed = true) :
    state.correlator.entries.find? registered.id = some ticket :=
  (mirrors.entries _ ticket).mpr (by simp [here, entry_eq_some_iff, listed])

theorem find?_ticket (mirrors : Mirrors state known) {registered : Registered}
    (here : known[ticket]? = some registered) (held : registered.isHeld = true) :
    state.tickets.find? registered.name = some ticket :=
  (mirrors.tickets _ ticket).mpr (by simp [here, holder_eq_some_iff, held])

theorem slot_eq (mirrors : Mirrors state known) {registered : Registered}
    (here : known[ticket]? = some registered) :
    state.correlator.slot ticket = registered.slot := by
  simp [Correlator.slot, List.getD_eq_getElem?_getD, mirrors.slots, here]

/-- An identifier without an entry is that of no listed registration. -/
theorem unlisted (mirrors : Mirrors state known)
    (absent : state.correlator.entries.find? id = none) {registered : Registered}
    (member : registered ∈ known) (listed : registered.isListed = true) : registered.id ≠ id := by
  rintro rfl
  obtain ⟨ticket, here⟩ := List.getElem?_of_mem member
  cases absent.symm.trans (mirrors.find?_entry here listed)

theorem unheld (mirrors : Mirrors state known) (absent : state.tickets.find? name = none)
    {registered : Registered} (member : registered ∈ known) (held : registered.isHeld = true) :
    registered.name ≠ name := by
  rintro rfl
  obtain ⟨ticket, here⟩ := List.getElem?_of_mem member
  cases absent.symm.trans (mirrors.find?_ticket here held)

theorem absent_of_unlisted (mirrors : Mirrors state known)
    (unlisted : ∀ registered ∈ known, registered.isListed = true → registered.id ≠ id) :
    state.correlator.entries.find? id = none := by
  cases found : state.correlator.entries.find? id with
  | none => rfl
  | some ticket =>
      obtain ⟨registered, here, listed, same⟩ := mirrors.of_entry found
      exact absurd same (unlisted registered (List.mem_of_getElem? here) listed)

/-! ### One operation -/

abbrev aged (known : List Registered) (next : Step) : List Registered := known.map (after · next)

/-- What becomes of the entries when an identifier is settled. -/
theorem entries_settled (mirrors : Mirrors state known) {next : Step}
    (settles : ∀ other, next.settles other = (id == other)) :
    (state.correlator.entries.erase id).Indexes ((aged known next).map entry) := by
  have seen (registered : Registered) :
      (registered.after next).entry = Directory.vacate id registered.entry := by
    rw [entry_after, settles, Directory.vacate]
    by_cases same : registered.id = id
    · subst same
      simp only [beq_self_eq_true, if_true, entry]
      split <;> simp_all
    · simp [Ne.symm same, entry_eq_some_iff, same]
  rw [map_eq_map fun registered _ => seen registered]
  exact mirrors.entries.erase id

theorem entries_kept (mirrors : Mirrors state known) {next : Step}
    (settles : ∀ other, next.settles other = false) :
    state.correlator.entries.Indexes ((aged known next).map entry) := by
  rw [map_eq_self fun registered _ => by simp [entry_after, settles]]
  exact mirrors.entries

theorem tickets_kept (mirrors : Mirrors state known) {next : Step}
    (kept : ∀ other, next.surrenders other = false) :
    state.tickets.Indexes ((aged known next).map holder) := by
  rw [map_eq_self fun registered _ => by simp [holder_after, kept]]
  exact mirrors.tickets

/-- What becomes of the names when a receiver goes. -/
theorem tickets_surrendered (mirrors : Mirrors state known) {next : Step}
    (surrenders : ∀ other, next.surrenders other = (name == other)) :
    (state.tickets.erase name).Indexes ((aged known next).map holder) := by
  have seen (registered : Registered) :
      (registered.after next).holder = Directory.vacate name registered.holder := by
    rw [holder_after, surrenders, Directory.vacate]
    by_cases same : registered.name = name
    · subst same
      simp only [beq_self_eq_true, if_true, holder]
      split <;> simp_all
    · simp [Ne.symm same, holder_eq_some_iff, same]
  rw [map_eq_map fun registered _ => seen registered]
  exact mirrors.tickets.erase name

/-- An operation that touches the slot of one registration at most. -/
theorem slots_set (mirrors : Mirrors state known) {next : Step} {registered : Registered}
    (here : known[ticket]? = some registered)
    (apart : ∀ place other, known[place]? = some other → place ≠ ticket →
      (other.after next).slot = other.slot) :
    state.correlator.slots.set ticket (registered.after next).slot =
      (aged known next).map slot := by
  rw [mirrors.slots, List.map_map]
  exact (map_eq_set (slot ∘ (after · next)) slot here apart).symm

theorem slots_unmoved (mirrors : Mirrors state known) {next : Step}
    (apart : ∀ registered ∈ known, (registered.after next).slot = registered.slot) :
    state.correlator.slots = (aged known next).map slot := by
  rw [map_eq_self apart]
  exact mirrors.slots

theorem slots_same (mirrors : Mirrors state known) {next : Step} {registered : Registered}
    (here : known[ticket]? = some registered)
    (apart : ∀ place other, known[place]? = some other → place ≠ ticket →
      (other.after next).slot = other.slot)
    (same : (registered.after next).slot = registered.slot) :
    state.correlator.slots = (aged known next).map slot := by
  refine mirrors.slots_unmoved fun other member => ?_
  obtain ⟨place, there⟩ := List.getElem?_of_mem member
  by_cases differs : place = ticket
  · subst differs
    exact Option.some.inj (here.symm.trans there) ▸ same
  · exact apart place other there differs

theorem nextId (mirrors : Mirrors state known) :
    Mirrors (state.step .nextId).2 (aged known .nextId) where
  entries := mirrors.entries_kept fun _ => rfl
  tickets := mirrors.tickets_kept fun _ => rfl
  slots := mirrors.slots_unmoved fun _ _ =>
    slot_after_of_apart rfl (fun _ => rfl) fun _ _ => rfl

/-- Settling an identifier touches the slot of its entry only. -/
theorem apart_of_settles (mirrors : Mirrors state known) {next : Step}
    (settles : ∀ other, next.settles other = (id == other))
    (found : state.correlator.entries.find? id = some ticket) (place : Nat) (other : Registered)
    (there : known[place]? = some other) (differs : place ≠ ticket) :
    (other.after next).slot = other.slot := by
  obtain ⟨registered, here, _, rfl⟩ := mirrors.of_entry found
  have settled : next.settles registered.id = true := (settles _).trans (beq_self_eq_true _)
  refine slot_after_of_apart (not_surrenders_of_settles settled _) (fun listed => ?_)
    fun _ _ => not_takes_of_settles settled _
  rw [settles, beq_eq_false_iff_ne]
  intro same
  exact differs (Option.some.inj ((mirrors.find?_entry there listed).symm.trans (same ▸ found)))

/-- Settling an identifier that has no entry changes nothing. -/
theorem settled_of_absent (mirrors : Mirrors state known) {next : Step}
    (settles : ∀ other, next.settles other = (id == other))
    (absent : state.correlator.entries.find? id = none) : Mirrors state (aged known next) := by
  have settled : next.settles id = true := (settles _).trans (beq_self_eq_true _)
  refine ⟨?_, mirrors.tickets_kept (not_surrenders_of_settles settled), ?_⟩
  · have erased := mirrors.entries_settled settles
    rwa [Directory.erase_of_absent absent] at erased
  · refine mirrors.slots_unmoved fun registered member => ?_
    refine slot_after_of_apart (not_surrenders_of_settles settled _) (fun listed => ?_)
      fun _ _ => not_takes_of_settles settled _
    rw [settles, beq_eq_false_iff_ne]
    exact (mirrors.unlisted absent member listed).symm

theorem resolve (mirrors : Mirrors state known) (response : Response) :
    Mirrors (state.step (.resolve response)).2 (aged known (.resolve response)) := by
  cases meant : response.id with
  | none =>
      have stepped : (state.step (.resolve response)).2 = state := by
        simp [step, Correlator.resolve, meant]
      have unsettled (other : UInt64) : (Step.resolve response).settles other = false := by
        simp [Step.settles, meant]
      rw [stepped]
      exact ⟨mirrors.entries_kept unsettled, mirrors.tickets_kept fun _ => rfl,
        mirrors.slots_unmoved fun _ _ =>
          slot_after_of_apart rfl (fun _ => unsettled _) fun _ _ => rfl⟩
  | some id =>
      have settles (other : UInt64) : (Step.resolve response).settles other = (id == other) := by
        simp [Step.settles, meant]
      cases found : state.correlator.entries.find? id with
      | none =>
          have stepped : (state.step (.resolve response)).2 = state := by
            simp [step, Correlator.resolve_of_unlisted meant found]
          rw [stepped]
          exact mirrors.settled_of_absent settles found
      | some ticket =>
          obtain ⟨registered, here, listed, rfl⟩ := mirrors.of_entry found
          have settled := (settles registered.id).trans (beq_self_eq_true _)
          have apart := mirrors.apart_of_settles settles found
          by_cases held : registered.isHeld = true
          · have awaiting : state.correlator.slot ticket = .awaiting :=
              (mirrors.slot_eq here).trans (slot_eq_awaiting_iff.mpr ⟨held, listed⟩)
            have answered := slot_after_of_settles held listed settled
            have slots := mirrors.slots_set here apart
            rw [answered] at slots
            simp only [step, Correlator.resolve_of_awaiting meant found awaiting]
            exact ⟨mirrors.entries_settled settles, mirrors.tickets_kept fun _ => rfl, slots⟩
          · have gone := slot_of_abandoned (Bool.eq_false_iff.mpr held)
            have stepped : (state.step (.resolve response)).2 =
                { state with
                  correlator := { state.correlator with
                    entries := state.correlator.entries.erase registered.id } } := by
              simp [step, Correlator.resolve, meant, found, mirrors.slot_eq here, gone]
            rw [stepped]
            refine ⟨mirrors.entries_settled settles, mirrors.tickets_kept fun _ => rfl, ?_⟩
            refine mirrors.slots_same here apart (gone ▸ slot_of_abandoned ?_)
            simp [isHeld_after, Bool.eq_false_iff.mpr held]

theorem remove (mirrors : Mirrors state known) (id : UInt64) :
    Mirrors (state.step (.remove id)).2 (aged known (.remove id)) := by
  have settles (other : UInt64) : (Step.remove id).settles other = (id == other) := rfl
  cases found : state.correlator.entries.find? id with
  | none =>
      have stepped : (state.step (.remove id)).2 = state := by
        simp [step, Correlator.remove, found]
      rw [stepped]
      exact mirrors.settled_of_absent settles found
  | some ticket =>
      obtain ⟨registered, here, listed, rfl⟩ := mirrors.of_entry found
      have settled := (settles registered.id).trans (beq_self_eq_true _)
      have slots := mirrors.slots_set here (mirrors.apart_of_settles settles found)
      have present : state.correlator.slots[ticket]? = some registered.slot := by
        simp [mirrors.slots, here]
      have unlisted : (registered.after (.remove registered.id)).slot =
          Slot.unlisted registered.slot := by
        by_cases held : registered.isHeld = true
        · rw [slot_after_of_settles held listed settled,
            slot_eq_awaiting_iff.mpr ⟨held, listed⟩]
          rfl
        · have gone := Bool.eq_false_iff.mpr held
          rw [slot_of_abandoned gone, slot_of_abandoned (by simp [isHeld_after, gone])]
          rfl
      rw [unlisted, set_eq_modify_of_present present] at slots
      simp only [step, Correlator.remove, found]
      exact ⟨mirrors.entries_settled settles, mirrors.tickets_kept fun _ => rfl, slots⟩

theorem take (mirrors : Mirrors state known) (name : String) :
    Mirrors (state.step (.take name)).2 (aged known (.take name)) := by
  have apart (registered : Registered)
      (other : registered.isHeld = true → registered.isListed = false → registered.name ≠ name) :
      (registered.after (.take name)).slot = registered.slot := by
    refine slot_after_of_apart rfl (fun _ => rfl) fun held unlisted => ?_
    exact beq_eq_false_iff_ne.mpr (other held unlisted).symm
  have entries : state.correlator.entries.Indexes ((aged known (.take name)).map entry) :=
    mirrors.entries_kept fun _ => rfl
  have tickets : state.tickets.Indexes ((aged known (.take name)).map holder) :=
    mirrors.tickets_kept fun _ => rfl
  cases found : state.tickets.find? name with
  | none =>
      have stepped : (state.step (.take name)).2 = state := by simp [step, found]
      rw [stepped]
      exact ⟨entries, tickets, mirrors.slots_unmoved fun registered member =>
        apart registered fun held _ => mirrors.unheld found member held⟩
  | some ticket =>
      obtain ⟨registered, here, held, rfl⟩ := mirrors.of_ticket found
      have elsewhere : ∀ place other, known[place]? = some other → place ≠ ticket →
          (other.after (.take registered.name)).slot = other.slot := by
        intro place other there differs
        refine apart other fun alive _ same => differs ?_
        exact Option.some.inj ((mirrors.find?_ticket there alive).symm.trans (same ▸ found))
      simp only [step, found, Correlator.take, mirrors.slot_eq here]
      cases content : registered.slot with
      | awaiting =>
          have listed := (slot_eq_awaiting_iff.mp content).2
          refine ⟨entries, tickets, mirrors.slots_same here elsewhere (apart registered ?_)⟩
          intro _ unlisted
          cases listed.symm.trans unlisted
      | answered response =>
          have unlisted : registered.isListed = false := by
            refine Bool.eq_false_iff.mpr fun listed => ?_
            cases content.symm.trans (slot_eq_awaiting_iff.mpr ⟨held, listed⟩)
          have slots := mirrors.slots_set here elsewhere
          rw [slot_after_of_takes held unlisted (beq_self_eq_true _)] at slots
          exact ⟨entries, tickets, slots⟩
      | closed =>
          have unlisted : registered.isListed = false := by
            refine Bool.eq_false_iff.mpr fun listed => ?_
            cases content.symm.trans (slot_eq_awaiting_iff.mpr ⟨held, listed⟩)
          refine ⟨entries, tickets, mirrors.slots_same here elsewhere ?_⟩
          rw [slot_after_of_takes held unlisted (beq_self_eq_true _), content]
      | abandoned =>
          simp only [slot, held, if_true] at content
          split at content <;> cases content

/-- The slots when the receiver of a name goes. -/
theorem slots_surrendered (mirrors : Mirrors state known) {next : Step}
    (surrenders : ∀ other, next.surrenders other = (name == other)) :
    (match state.tickets.find? name with
      | some ticket => state.correlator.slots.set ticket .abandoned
      | none => state.correlator.slots) = (aged known next).map slot := by
  have surrendered : next.surrenders name = true := (surrenders _).trans (beq_self_eq_true _)
  have unsettled (other : UInt64) : next.settles other = false := by
    cases settles : next.settles other with
    | false => rfl
    | true => exact (not_surrenders_of_settles settles name).symm.trans surrendered |>.symm
  have apart (registered : Registered) (other : registered.isHeld = true → registered.name ≠ name) :
      (registered.after next).slot = registered.slot := by
    cases held : registered.isHeld with
    | false =>
        rw [slot_of_abandoned held, slot_of_abandoned (by simp [isHeld_after, held])]
    | true =>
        refine slot_after_of_apart ?_ (fun _ => unsettled _)
          fun _ _ => not_takes_of_surrenders surrendered _
        rw [surrenders, beq_eq_false_iff_ne]
        exact (other held).symm
  cases found : state.tickets.find? name with
  | none =>
      exact mirrors.slots_unmoved fun registered member =>
        apart registered fun held => mirrors.unheld found member held
  | some ticket =>
      obtain ⟨registered, here, held, rfl⟩ := mirrors.of_ticket found
      have slots : _ = (aged known next).map slot :=
        mirrors.slots_set here fun place other there differs => by
          refine apart other fun alive same => differs ?_
          exact Option.some.inj ((mirrors.find?_ticket there alive).symm.trans (same ▸ found))
      rwa [slot_after_of_surrenders surrendered] at slots

theorem drop (mirrors : Mirrors state known) (name : String) :
    Mirrors (state.step (.drop name)).2 (aged known (.drop name)) := by
  have surrenders (other : String) : (Step.drop name).surrenders other = (name == other) := rfl
  have entries : state.correlator.entries.Indexes ((aged known (.drop name)).map entry) :=
    mirrors.entries_kept fun _ => rfl
  have tickets := mirrors.tickets_surrendered surrenders
  have slots := mirrors.slots_surrendered surrenders
  cases found : state.tickets.find? name with
  | none =>
      rw [Directory.erase_of_absent found] at tickets
      rw [found] at slots
      have stepped : (state.step (.drop name)).2 = state := by simp [step, found]
      rw [stepped]
      exact ⟨entries, tickets, slots⟩
  | some ticket =>
      rw [found] at slots
      simp only [step, found]
      exact ⟨entries, tickets, slots⟩

theorem register (mirrors : Mirrors state known) (id : UInt64) (name : String)
    (fresh : ∀ registered ∈ known, registered.isListed = true → registered.id ≠ id) :
    Mirrors (state.step (.register id name)).2
      (aged known (.register id name) ++ [⟨id, name, []⟩]) := by
  have absent := mirrors.absent_of_unlisted fresh
  have surrenders (other : String) : (Step.register id name).surrenders other = (name == other) := rfl
  have size : state.correlator.slots.length = known.length := by
    rw [mirrors.slots, List.length_map]
  have slots := mirrors.slots_surrendered surrenders
  have held : (state.step (.register id name)).2.correlator.slots =
      (aged known (.register id name)).map slot ++ [.awaiting] := by
    rw [← slots]
    simp only [step, Correlator.register_of_unlisted absent, hold]
    cases found : state.tickets.find? name with
    | none => rfl
    | some older =>
        obtain ⟨_, here, _⟩ := mirrors.of_ticket found
        obtain ⟨within, _⟩ := List.getElem?_eq_some_iff.mp here
        exact List.set_append_left _ _ (size ▸ within)
  have entries : (state.step (.register id name)).2.correlator.entries =
      state.correlator.entries.insert id state.correlator.slots.length := by
    simp only [step, Correlator.register_of_unlisted absent, hold]
    cases state.tickets.find? name <;> rfl
  have tickets : (state.step (.register id name)).2.tickets =
      state.tickets.insert name state.correlator.slots.length := by
    simp only [step, Correlator.register_of_unlisted absent, hold]
  constructor
  case entries =>
    have kept : state.correlator.entries.Indexes ((aged known (.register id name)).map entry) :=
      mirrors.entries_kept fun _ => rfl
    have inserted := kept.insert id
    rw [kept.of_find?_none absent, List.length_map, List.length_map, ← size] at inserted
    rw [entries, List.map_append]
    exact inserted
  case tickets =>
    have erased := mirrors.tickets_surrendered surrenders
    have inserted := erased.insert name
    rw [erased.of_find?_none (state.tickets.find?_erase_self name), List.length_map,
      List.length_map, ← size, Directory.insert_erase] at inserted
    rw [tickets, List.map_append]
    exact inserted
  case slots =>
    rw [held, List.map_append]
    rfl

end Mirrors

theorem Mirrors.step {state : NamedCorrelator} {known : List Registered}
    (mirrors : Mirrors state known) (next : Step)
    (fresh : ∀ id name, next = .register id name →
      ∀ registered ∈ known, registered.isListed = true → registered.id ≠ id) :
    Mirrors (state.step next).2 (known.map (after · next) ++ next.registered?.toList) := by
  cases next with
  | register id name => exact mirrors.register id name (fresh id name rfl)
  | nextId => exact (List.append_nil _).symm ▸ mirrors.nextId
  | resolve response => exact (List.append_nil _).symm ▸ mirrors.resolve response
  | remove id => exact (List.append_nil _).symm ▸ mirrors.remove id
  | take name => exact (List.append_nil _).symm ▸ mirrors.take name
  | drop name => exact (List.append_nil _).symm ▸ mirrors.drop name

theorem run_snoc (state : NamedCorrelator) (steps : List Step) (next : Step) :
    state.run (steps ++ [next]) = ((state.run steps).step next).2 := by
  simp [run]

theorem mirrors_run {steps : List Step} (proper : Proper steps) :
    Mirrors (empty.run steps) (registrations steps) := by
  induction steps using List.reverseRecOn with
  | nil =>
      exact ⟨fun _ _ => iff_of_false nofun nofun, fun _ _ => iff_of_false nofun nofun, rfl⟩
  | append_singleton steps next ih =>
      rw [run_snoc, registrations_snoc]
      refine (ih proper.init).step next fun id name made => ?_
      subst made
      exact proper.last

end NamedCorrelator

end ServerManagement
