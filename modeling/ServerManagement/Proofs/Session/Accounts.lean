import Mathlib.Algebra.Group.Nat.Defs
import ServerManagement.Proofs.Correlation.SlotProperties
import ServerManagement.Session.Basic

/-!
The calls in progress and the table of the correlator agree: each call leads one life, known by its
number, by its identifier and by its ticket, and its identifier is listed exactly as long as no
response has come.
-/

set_option autoImplicit false

namespace ServerManagement

structure Accounts (calls : List Call) (callCount : Nat) (correlator : Correlator) : Prop where
  drawn : correlator.lastId.toNat ≤ callCount
  numbered : calls.Pairwise fun call other => call.number < other.number
  identified : calls.Pairwise fun call other => call.id < other.id
  ticketed : calls.Pairwise fun call other => call.ticket < other.ticket
  counted : ∀ call ∈ calls, call.number < callCount
  known : ∀ call ∈ calls, 0 < call.id ∧ call.id ≤ correlator.lastId
  placed : ∀ call ∈ calls, call.ticket < correlator.slots.length
  listed : ∀ id ticket, correlator.entries.find? id = some ticket ↔
    ∃ call ∈ calls, call.id = id ∧ call.ticket = ticket ∧ correlator.slot ticket = .awaiting
  filled : ∀ call ∈ calls, correlator.slot call.ticket = .awaiting ∨
    ∃ response, response.id = some call.id ∧ correlator.slot call.ticket = .answered response

namespace Accounts

variable {calls : List Call} {callCount : Nat} {correlator : Correlator}

theorem empty : Accounts [] 0 .empty where
  drawn := by decide
  numbered := .nil
  identified := .nil
  ticketed := .nil
  counted := by simp
  known := by simp
  placed := by simp
  listed := by simp [Correlator.empty]
  filled := by simp

theorem eq_of_number (accounts : Accounts calls callCount correlator) {call other : Call}
    (member : call ∈ calls) (otherMember : other ∈ calls) (same : call.number = other.number) :
    call = other :=
  eq_of_separate (accounts.numbered.imp Nat.ne_of_lt) member otherMember same

theorem eq_of_id (accounts : Accounts calls callCount correlator) {call other : Call}
    (member : call ∈ calls) (otherMember : other ∈ calls) (same : call.id = other.id) :
    call = other :=
  eq_of_separate (accounts.identified.imp UInt64.ne_of_lt) member otherMember same

theorem eq_of_ticket (accounts : Accounts calls callCount correlator) {call other : Call}
    (member : call ∈ calls) (otherMember : other ∈ calls) (same : call.ticket = other.ticket) :
    call = other :=
  eq_of_separate (accounts.ticketed.imp Nat.ne_of_lt) member otherMember same

/-- The entry of a call leads to its own slot. -/
theorem ticket_of_listed (accounts : Accounts calls callCount correlator) {call : Call}
    (member : call ∈ calls) {ticket : Nat}
    (found : correlator.entries.find? call.id = some ticket) : ticket = call.ticket := by
  obtain ⟨other, otherMember, sameId, sameTicket, _⟩ := (accounts.listed _ _).mp found
  rw [← sameTicket, accounts.eq_of_id otherMember member sameId]

theorem find?_eq_some_iff (accounts : Accounts calls callCount correlator) {call : Call}
    (member : call ∈ calls) :
    correlator.entries.find? call.id = some call.ticket ↔
      correlator.slot call.ticket = .awaiting := by
  rw [accounts.listed]
  constructor
  · rintro ⟨_, _, _, _, awaiting⟩
    exact awaiting
  · intro awaiting
    exact ⟨call, member, rfl, rfl, awaiting⟩

theorem find?_eq_none_iff (accounts : Accounts calls callCount correlator) {call : Call}
    (member : call ∈ calls) :
    correlator.entries.find? call.id = none ↔ correlator.slot call.ticket ≠ .awaiting := by
  rw [ne_eq, ← accounts.find?_eq_some_iff member]
  cases found : correlator.entries.find? call.id with
  | none => simp
  | some ticket => simp [accounts.ticket_of_listed member found]

/-- A call that goes leaves the others as they are. -/
theorem slot_dismiss (accounts : Accounts calls callCount correlator) {call other : Call}
    (member : call ∈ calls) (otherMember : other ∈ calls) (differs : other.number ≠ call.number) :
    ((correlator.remove call.id).2.abandon call.ticket).slot other.ticket =
      correlator.slot other.ticket := by
  apply Correlator.slot_remove_abandon_of_ne
  · intro target found
    exact accounts.ticket_of_listed member found
  · intro same
    exact differs (congrArg Call.number (accounts.eq_of_ticket otherMember member same))

theorem dismiss (accounts : Accounts calls callCount correlator) {call : Call}
    (member : call ∈ calls) :
    Accounts (calls.filter fun other => other.number ≠ call.number) callCount
      ((correlator.remove call.id).2.abandon call.ticket) := by
  have kept : ∀ {other : Call}, other ∈ (calls.filter fun other => other.number ≠ call.number) ↔
      other ∈ calls ∧ other.number ≠ call.number := by
    intro other
    simp
  constructor
  case drawn => simpa using accounts.drawn
  case numbered => exact accounts.numbered.filter _
  case identified => exact accounts.identified.filter _
  case ticketed => exact accounts.ticketed.filter _
  case counted =>
    intro other otherKept
    exact accounts.counted other (kept.mp otherKept).1
  case known =>
    intro other otherKept
    simpa using accounts.known other (kept.mp otherKept).1
  case placed =>
    intro other otherKept
    simpa using accounts.placed other (kept.mp otherKept).1
  case filled =>
    intro other otherKept
    obtain ⟨otherMember, differs⟩ := kept.mp otherKept
    rw [accounts.slot_dismiss member otherMember differs]
    exact accounts.filled other otherMember
  case listed =>
    intro id ticket
    rw [Correlator.find?_remove_abandon]
    constructor
    · intro found
      split at found
      · cases found
      · rename_i differs
        obtain ⟨other, otherMember, rfl, rfl, awaiting⟩ := (accounts.listed _ _).mp found
        have apart : other.number ≠ call.number := by
          intro same
          exact differs (congrArg Call.id (accounts.eq_of_number otherMember member same))
        refine ⟨other, kept.mpr ⟨otherMember, apart⟩, rfl, rfl, ?_⟩
        rw [accounts.slot_dismiss member otherMember apart]
        exact awaiting
    · rintro ⟨other, otherKept, rfl, rfl, awaiting⟩
      obtain ⟨otherMember, differs⟩ := kept.mp otherKept
      rw [accounts.slot_dismiss member otherMember differs] at awaiting
      have apart : other.id ≠ call.id := by
        intro same
        exact differs (congrArg Call.number (accounts.eq_of_id otherMember member same))
      rw [if_neg apart]
      exact (accounts.find?_eq_some_iff otherMember).mpr awaiting

/-! ## Responses -/

/-- A response fills the slot of the call that is meant, if that call still awaits one. -/
theorem slot_resolve (accounts : Accounts calls callCount correlator) {response : Response}
    {id : UInt64} (meant : response.id = some id) {call : Call} (member : call ∈ calls) :
    (correlator.resolve response).2.slot call.ticket =
      if call.id = id ∧ correlator.slot call.ticket = .awaiting then .answered response
      else correlator.slot call.ticket := by
  cases found : correlator.entries.find? id with
  | none =>
      rw [Correlator.resolve_of_unlisted meant found, if_neg]
      rintro ⟨rfl, awaiting⟩
      exact (accounts.find?_eq_none_iff member).mp found awaiting
  | some ticket =>
      obtain ⟨owner, ownerMember, rfl, rfl, awaiting⟩ := (accounts.listed _ _).mp found
      rw [Correlator.resolve_of_awaiting meant found awaiting,
        Correlator.slot_set _ _ _ _ _ _ (accounts.placed owner ownerMember)]
      by_cases same : call.ticket = owner.ticket
      · have equal := accounts.eq_of_ticket member ownerMember same
        subst equal
        simp [awaiting]
      · have differs : call.id ≠ owner.id := by
          intro sameId
          exact same (congrArg Call.ticket (accounts.eq_of_id member ownerMember sameId))
        simp only [same, differs, false_and, if_false]
        rfl

theorem find?_resolve (accounts : Accounts calls callCount correlator) {response : Response}
    {id : UInt64} (meant : response.id = some id) (other : UInt64) :
    (correlator.resolve response).2.entries.find? other =
      if other = id then none else correlator.entries.find? other := by
  cases found : correlator.entries.find? id with
  | none =>
      rw [Correlator.resolve_of_unlisted meant found]
      by_cases same : other = id
      · simp [same, found]
      · simp [same]
  | some ticket =>
      obtain ⟨_, _, _, rfl, awaiting⟩ := (accounts.listed _ _).mp found
      rw [Correlator.resolve_of_awaiting meant found awaiting]
      exact Directory.find?_erase ..

theorem resolve (accounts : Accounts calls callCount correlator) (response : Response) :
    Accounts calls callCount (correlator.resolve response).2 := by
  cases meant : response.id with
  | none => simpa [Correlator.resolve, meant] using accounts
  | some id =>
      have frame : (correlator.resolve response).2.lastId = correlator.lastId ∧
          (correlator.resolve response).2.slots.length = correlator.slots.length := by
        simp only [Correlator.resolve, meant]
        split
        · simp
        · split <;> simp
      constructor
      case drawn => simpa only [frame.1] using accounts.drawn
      case numbered => exact accounts.numbered
      case identified => exact accounts.identified
      case ticketed => exact accounts.ticketed
      case counted => exact accounts.counted
      case known => simpa only [frame.1] using accounts.known
      case placed => simpa only [frame.2] using accounts.placed
      case filled =>
        intro call member
        rw [accounts.slot_resolve meant member]
        split
        · rename_i here
          exact .inr ⟨response, by rw [meant, here.1], rfl⟩
        · exact accounts.filled call member
      case listed =>
        intro other ticket
        rw [accounts.find?_resolve meant]
        constructor
        · intro found
          split at found
          · cases found
          · rename_i differs
            obtain ⟨call, member, rfl, rfl, awaiting⟩ := (accounts.listed _ _).mp found
            refine ⟨call, member, rfl, rfl, ?_⟩
            rw [accounts.slot_resolve meant member, if_neg fun here => differs here.1]
            exact awaiting
        · rintro ⟨call, member, rfl, rfl, awaiting⟩
          rw [accounts.slot_resolve meant member] at awaiting
          split at awaiting
          · cases awaiting
          · rename_i elsewhere
            have differs : call.id ≠ id := fun same => elsewhere ⟨same, awaiting⟩
            rw [if_neg differs]
            exact (accounts.find?_eq_some_iff member).mpr awaiting

/-! ## New calls -/

/-- A step may count a call that comes to nothing. -/
theorem count (accounts : Accounts calls callCount correlator) :
    Accounts calls (callCount + 1) correlator :=
  { accounts with
    drawn := Nat.le_succ_of_le accounts.drawn
    counted := fun call member => Nat.lt_succ_of_lt (accounts.counted call member) }

theorem toNat_nextId (accounts : Accounts calls callCount correlator)
    (few : callCount + 1 < 2 ^ 64) :
    correlator.nextId.1.toNat = correlator.lastId.toNat + 1 := by
  have drawn := accounts.drawn
  simp only [Correlator.nextId, UInt64.toNat_add, UInt64.toNat_one]
  omega

/-- Before identifiers come round, one that is drawn is above all that are in use. -/
theorem lt_nextId (accounts : Accounts calls callCount correlator) (few : callCount + 1 < 2 ^ 64) :
    correlator.lastId < correlator.nextId.1 := by
  rw [UInt64.lt_iff_toNat_lt, accounts.toNat_nextId few]
  omega

theorem draw (accounts : Accounts calls callCount correlator) (few : callCount + 1 < 2 ^ 64) :
    Accounts calls (callCount + 1) correlator.nextId.2 :=
  { accounts.count with
    drawn := by
      have next := accounts.toNat_nextId few
      have drawn := accounts.drawn
      simp only [Correlator.nextId] at next ⊢
      omega
    known := by
      intro call member
      obtain ⟨positive, below⟩ := accounts.known call member
      exact ⟨positive, UInt64.le_of_lt (UInt64.lt_of_le_of_lt below (accounts.lt_nextId few))⟩ }

theorem find?_eq_none_of_lt (accounts : Accounts calls callCount correlator) {id : UInt64}
    (above : ∀ call ∈ calls, call.id < id) : correlator.entries.find? id = none := by
  cases found : correlator.entries.find? id with
  | none => rfl
  | some ticket =>
      obtain ⟨call, member, rfl, _, _⟩ := (accounts.listed _ _).mp found
      exact absurd (above call member) (UInt64.lt_irrefl _)

theorem find?_nextId (accounts : Accounts calls callCount correlator)
    (few : callCount + 1 < 2 ^ 64) :
    correlator.nextId.2.entries.find? correlator.nextId.1 = none := by
  refine accounts.find?_eq_none_of_lt fun call member => ?_
  exact UInt64.lt_of_le_of_lt (accounts.known call member).2 (accounts.lt_nextId few)

/-- A registration lists the call that it is made for, besides those that were listed. -/
theorem listed_register (accounts : Accounts calls callCount correlator) {call : Call}
    (above : ∀ other ∈ calls, other.id < call.id) (ticket : call.ticket = correlator.slots.length)
    (id : UInt64) (place : Nat) :
    (correlator.register call.id).2.entries.find? id = some place ↔
      ∃ other ∈ calls ++ [call], other.id = id ∧ other.ticket = place ∧
        (correlator.register call.id).2.slot place = .awaiting := by
  have unlisted := accounts.find?_eq_none_of_lt above
  rw [Correlator.find?_register]
  constructor
  · intro found
    split at found
    · rename_i here
      cases found
      exact ⟨call, by simp, here.symm, ticket, Correlator.slot_register_self unlisted⟩
    · obtain ⟨other, member, rfl, rfl, awaiting⟩ := (accounts.listed _ _).mp found
      refine ⟨other, List.mem_append_left _ member, rfl, rfl, ?_⟩
      exact (Correlator.slot_register_of_lt unlisted (accounts.placed other member)).trans awaiting
  · rintro ⟨other, member, rfl, rfl, awaiting⟩
    rcases List.mem_append.mp member with old | new
    · rw [if_neg (UInt64.ne_of_lt (above other old))]
      rw [Correlator.slot_register_of_lt unlisted (accounts.placed other old)] at awaiting
      exact (accounts.find?_eq_some_iff old).mpr awaiting
    · obtain rfl := List.mem_singleton.mp new
      rw [if_pos rfl, ticket]

/-- A call joins those in progress under an identifier and a ticket above theirs. -/
theorem register (accounts : Accounts calls callCount correlator) {call : Call}
    (newest : ∀ other ∈ calls, other.number < call.number)
    (above : ∀ other ∈ calls, other.id < call.id) (counted : call.number < callCount)
    (known : 0 < call.id ∧ call.id ≤ correlator.lastId)
    (ticket : call.ticket = correlator.slots.length) :
    Accounts (calls ++ [call]) callCount (correlator.register call.id).2 := by
  have unlisted := accounts.find?_eq_none_of_lt above
  have registered := Correlator.register_of_unlisted unlisted
  have lastId : (correlator.register call.id).2.lastId = correlator.lastId := by rw [registered]
  have length : (correlator.register call.id).2.slots.length = correlator.slots.length + 1 := by
    rw [registered]
    exact List.length_append
  have forall_append : ∀ {holds : Call → Prop}, (∀ other ∈ calls, holds other) → holds call →
      ∀ other ∈ calls ++ [call], holds other := by
    intro holds old new other member
    rcases List.mem_append.mp member with member | same
    · exact old other member
    · exact List.mem_singleton.mp same ▸ new
  constructor
  case drawn =>
    rw [lastId]
    exact accounts.drawn
  case numbered =>
    refine List.pairwise_append.mpr ⟨accounts.numbered, List.pairwise_singleton .., ?_⟩
    simpa using newest
  case identified =>
    refine List.pairwise_append.mpr ⟨accounts.identified, List.pairwise_singleton .., ?_⟩
    simpa using above
  case ticketed =>
    refine List.pairwise_append.mpr ⟨accounts.ticketed, List.pairwise_singleton .., ?_⟩
    simpa [ticket] using accounts.placed
  case counted => exact forall_append accounts.counted counted
  case known =>
    rw [lastId]
    exact forall_append accounts.known known
  case placed =>
    rw [length]
    refine forall_append (fun other member => ?_) (ticket ▸ Nat.lt_succ_self _)
    exact Nat.lt_succ_of_lt (accounts.placed other member)
  case filled =>
    refine forall_append (fun other member => ?_) (.inl ?_)
    · rw [Correlator.slot_register_of_lt unlisted (accounts.placed other member)]
      exact accounts.filled other member
    · rw [ticket]
      exact Correlator.slot_register_self unlisted
  case listed => exact accounts.listed_register above ticket

/-- The next identifier is drawn and registered for a call. -/
theorem enroll (accounts : Accounts calls callCount correlator) (few : callCount + 1 < 2 ^ 64)
    {call : Call} (number : call.number = callCount) (id : call.id = correlator.nextId.1)
    (ticket : call.ticket = correlator.slots.length) :
    Accounts (calls ++ [call]) (callCount + 1)
      (correlator.nextId.2.register correlator.nextId.1).2 := by
  have next := accounts.lt_nextId few
  rw [← id] at next ⊢
  refine (accounts.draw few).register ?_ ?_ ?_ ⟨?_, ?_⟩ ticket
  · intro other member
    rw [number]
    exact accounts.counted other member
  · intro other member
    exact UInt64.lt_of_le_of_lt (accounts.known other member).2 next
  · rw [number]
    exact Nat.lt_succ_self _
  · exact UInt64.lt_of_le_of_lt UInt64.zero_le next
  · exact UInt64.le_of_eq id

end Accounts

end ServerManagement
